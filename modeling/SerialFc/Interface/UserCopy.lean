import SerialFc.Exar.BaudRate
import SerialFc.Fscc.ClockBits
import SerialFc.Interface.Ioctl
import SerialFc.Interface.Ranges

/-! # What the ioctl handler owes its caller

A get that returns zero has stored its result, whatever the caller's object
held; a set that returns zero ran on what the caller passed; and a failing
call leaves everything as it was. The handler keeps this as far as the copy
between it and the caller gets through.
-/

namespace SerialFc

/-! ## Copies -/

section Copies

variable {copied written size value : Nat}

theorem copyToUser_apply (memory : UserMemory) (index : Nat) :
    ((UserSpace.mk memory copied).copyToUser written value).2 index =
      if index < copied ∧ index < written then objectByte value index
      else memory index := rfl

theorem copyToUser_stores_iff :
    (∀ memory : UserMemory, ∀ index < size,
      ((UserSpace.mk memory copied).copyToUser written value).2 index =
        objectByte value index) ↔ size ≤ copied ∧ size ≤ written := by
  constructor
  · intro stores
    by_contra short
    have missed : min copied written < size := by omega
    -- A caller whose object holds anything else at the first missing byte.
    have kept := stores (fun _ => ~~~objectByte value (min copied written)) _
      missed
    rw [copyToUser_apply, if_neg (by omega)] at kept
    have bit := congrArg (fun byte => byte.getLsbD 0) kept
    simp at bit
  · rintro ⟨throughout, large⟩ memory index inside
    rw [copyToUser_apply, if_pos ⟨by omega, by omega⟩]

theorem copyToUser_unchanged_iff (nonempty : 0 < written) :
    (∀ memory : UserMemory,
      ((UserSpace.mk memory copied).copyToUser written value).2 = memory) ↔
        copied = 0 := by
  constructor
  · intro unchanged
    by_contra some
    have first := congrFun (unchanged fun _ => ~~~objectByte value 0) 0
    rw [copyToUser_apply, if_pos ⟨by omega, nonempty⟩] at first
    have bit := congrArg (fun byte => byte.getLsbD 0) first
    simp at bit
  · rintro rfl memory
    funext index
    rw [copyToUser_apply, if_neg (by omega)]

end Copies

/-! ## Duties -/

/-- What a command asks for: the result of a getter in an object of some size,
or a setter on the caller's argument. -/
inductive Duty
  | get (size : Nat) (getter : Driver (Int × Nat))
  | set (setter : Driver Int)
  | none

def Duty.Done (machine : Machine Access Access.Response CardState)
    (call : Driver (Int × UserMemory)) (state next : CardState)
    (memory : UserMemory) : Duty → Prop
  | .get size getter =>
      ∃ value after, machine.run getter state = (some (0, value), after) ∧
        ∀ index < size, memory index = objectByte value index
  | .set setter =>
      machine.run setter state = (some 0, next) ∧
        machine.trace call state = machine.trace setter state
  | .none => True

/-- If the call returns, it did its duty with zero, or failed without a
change. -/
def Duty.Honoured (machine : Machine Access Access.Response CardState)
    (call : Driver (Int × UserMemory)) (memory : UserMemory)
    (state : CardState) (duty : Duty) : Prop :=
  ∀ code after next, machine.run call state = (some (code, after), next) →
    (code = 0 → duty.Done machine call state next after) ∧
      (code ≠ 0 → after = memory ∧ SameButIndex state next)

def Duty.unsigned (getter : Driver (Int × BitVec 32)) : Duty :=
  .get 4 do
    let (status, value) ← getter
    pure (status, value.toNat)

/-- What each command asks for. The argument of a set is `arg`, or the 20
bytes of the clock word in the caller's memory. -/
def Command.duty (port : Port) (arg : BitVec 64) (memory : UserMemory)
    (allocated : Bool) : Command → Duty
  | .enableRs485 => .set (fastcomSetRs485 port 1)
  | .disableRs485 => .set (fastcomSetRs485 port 0)
  | .getRs485 => .unsigned (fastcomGetRs485 port 0)
  | .enableEchoCancel => .set (Setting.echoCancel.set port 1)
  | .disableEchoCancel => .set (Setting.echoCancel.set port 0)
  | .getEchoCancel => .unsigned (Setting.echoCancel.get port 0)
  | .enableTermination => .set (fastcomSetTermination port 1)
  | .disableTermination => .set (fastcomSetTermination port 0)
  | .getTermination => .unsigned (fastcomGetTermination port 0)
  | .setSampleRate => .set (fastcomSetSampleRate port (arg.setWidth 32))
  | .getSampleRate => .unsigned (Setting.sampleRate.get port 0)
  | .setTxTrigger => .set (fastcomSetTxTrigger port (arg.setWidth 32))
  | .getTxTrigger => .unsigned (fastcomGetTxTrigger port 0)
  | .setRxTrigger => .set (fastcomSetRxTrigger port (arg.setWidth 32))
  | .getRxTrigger => .unsigned (fastcomGetRxTrigger port 0)
  | .setClockRate => .set (fastcomSetClockRate port (arg.setWidth 32))
  | .setClockBits =>
      .set (fastcomSetClockBits port (fun index => memory index) allocated)
  | .enableIsochronous => .set (fastcomSetIsochronous port (arg.setWidth 32))
  | .disableIsochronous => .set (fastcomSetIsochronous port (-1))
  | .getIsochronous => .unsigned (fastcomGetIsochronous port 0)
  | .enableExternalTransmit =>
      .set (fastcomSetExternalTransmit port (arg.setWidth 32))
  | .disableExternalTransmit => .set (fastcomSetExternalTransmit port 0)
  | .getExternalTransmit => .unsigned (fastcomGetExternalTransmit port 0)
  | .setFrameLength => .set (fastcomSetFrameLength port (arg.setWidth 32))
  | .getFrameLength => .unsigned (fastcomGetFrameLength port 0)
  | .getCardType =>
      .unsigned (pure (0, (fastcomGetCardType port).toValue))
  | .enable9bit => .set (fastcomSet9bit port 1)
  | .disable9bit => .set (fastcomSet9bit port 0)
  | .get9bit => .unsigned (fastcomGet9bit port 0)
  | .setBaudRate => .set (fastcomSetBaudRate port arg)
  | .getBaudRate =>
      .get 8 do
        let (status, value) ← fastcomGetBaudRate port 0
        pure (status, value.toNat)
  | .getDevInfo => .get 6 (pure (0, (devInfo port.card.pciDev).toNat))
  | .enableFixedBaudRate | .disableFixedBaudRate | .getFixedBaudRate
  | .unknown => .none

def HonoursCaller (port : Port) (arg : BitVec 64) (copied : Nat)
    (allocated : Bool) (state : CardState) (command : Command) : Prop :=
  ∀ memory, (command.duty port arg memory allocated).Honoured port.card.machine
    (serialfcIoctl port arg ⟨memory, copied⟩ allocated command) memory state

/-! ## Sets -/

section Sets

variable {machine : Machine Access Access.Response CardState}
  {state : CardState} {memory : UserMemory} {setter : Driver Int}

theorem honoured_set
    (failsClean : ∀ status next, machine.run setter state = (some status, next) →
      status ≠ 0 → next = state) :
    (Duty.set setter).Honoured machine (do pure (← setter, memory)) memory
      state := by
  intro code after next run
  rw [Machine.run_bind] at run
  rcases runSet : machine.run setter state with ⟨_ | status, last⟩
  · rw [runSet] at run
    cases run
  · rw [runSet] at run
    obtain ⟨⟨rfl, rfl⟩, rfl⟩ : (status = code ∧ memory = after) ∧ last = next := by
      simpa using run
    refine ⟨?_, ?_⟩
    · rintro rfl
      refine ⟨runSet, ?_⟩
      rw [Machine.trace_bind, runSet]
      exact List.append_nil _
    · intro failed
      rw [failsClean status last runSet failed]
      exact ⟨rfl, .refl state⟩

theorem honoured_set_of_dropped {next : CardState}
    (sets : machine.run setter state = (some 0, next)) :
    (Duty.set setter).Honoured machine
      (do
        (do let _ ← setter)
        pure (0, memory)) memory state := by
  have dropped : machine.run (do let _ ← setter) state = (some (), next) := by
    rw [Machine.run_bind, sets]
    rfl
  intro code after last run
  rw [Machine.run_bind, dropped] at run
  rcases run with ⟨⟨rfl, rfl⟩, rfl⟩
  refine ⟨?_, fun failed => absurd rfl failed⟩
  intro _
  refine ⟨sets, ?_⟩
  rw [Machine.trace_bind, dropped, Machine.trace_bind, sets]
  simp [Machine.trace]

theorem honoured_refusal (errorCode : Int) :
    Duty.none.Honoured machine (pure (errorCode, memory)) memory state := by
  intro code after next run
  rcases run with ⟨⟨rfl, rfl⟩, rfl⟩
  exact ⟨fun _ => trivial, fun _ => ⟨rfl, .refl state⟩⟩

end Sets

/-! ## Gets -/

section Gets

variable {machine : Machine Access Access.Response CardState}
  {state next : CardState} {copied : Nat}

/-- What is left of a get once the getter ran: `sizeof(tmp)` bytes are copied
of an object of `size` bytes. -/
theorem honoured_get_iff {α : Type} {getter : Driver (Int × α)}
    (value : α → Nat) (size : Nat) {status : Int} {result : α}
    (run : machine.run getter state = (some (status, result), next))
    (failsClean : status ≠ 0 → next = state) :
    (∀ memory, (Duty.get size do
        let (status, result) ← getter
        pure (status, value result)).Honoured machine
          (do
            let (status, result) ← getter
            pure ((UserSpace.mk memory copied).answer status (value result)))
          memory state) ↔
      if status = 0 then size ≤ copied ∧ size ≤ 4 else copied = 0 := by
  have runCall : ∀ memory, machine.run
      (do
        let (status, result) ← getter
        pure ((UserSpace.mk memory copied).answer status (value result)))
      state = (some ((UserSpace.mk memory copied).answer status (value result)),
        next) := by
    intro memory
    rw [Machine.run_bind, run]
    rfl
  have runGet : machine.run
      (do
        let (status, result) ← getter
        pure (status, value result)) state =
      (some (status, value result), next) := by
    rw [Machine.run_bind, run]
    rfl
  by_cases zero : status = 0
  · rw [if_pos zero, ← copyToUser_stores_iff]
    subst zero
    constructor
    · intro honoured memory
      have answered := honoured memory _ _ _ (runCall memory)
      rcases answered.1 rfl with ⟨stored, after, runStored, stores⟩
      rw [runGet] at runStored
      obtain ⟨rfl, _⟩ : value result = stored ∧ next = after := by
        simpa using runStored
      exact stores
    · intro stores memory code after last runs
      rw [runCall memory] at runs
      rcases runs with ⟨⟨rfl, rfl⟩, rfl⟩
      exact ⟨fun _ => ⟨value result, next, runGet, stores memory⟩,
        fun failed => absurd rfl failed⟩
  · rw [if_neg zero, ← copyToUser_unchanged_iff (by decide : 0 < 4)]
    constructor
    · intro honoured memory
      exact ((honoured memory _ _ _ (runCall memory)).2 zero).1
    · intro unchanged memory code after last runs
      rw [runCall memory] at runs
      rcases runs with ⟨⟨rfl, rfl⟩, rfl⟩
      refine ⟨fun isZero => absurd isZero zero, fun _ => ⟨unchanged memory, ?_⟩⟩
      rw [failsClean zero]
      exact .refl state

end Gets

/-! ## The clock word -/

section ClockBits

variable {state : CardState}

theorem fcrClockData_topBit {channel : Nat} {left right : Fin 20 → BitVec 8}
    {origFcrValue : BitVec 32}
    (same : fcrClockData channel left origFcrValue =
      fcrClockData channel right origFcrValue) :
    (left 19).getLsbD 7 = (right 19).getLsbD 7 := by
  have first : ∀ word : Fin 20 → BitVec 8, ∃ later,
      clockWordBits word = (word 19).getLsbD 7 :: later :=
    fun word => ⟨_, rfl⟩
  rcases first left with ⟨leftLater, leftBits⟩
  rcases first right with ⟨rightLater, rightBits⟩
  rw [fcrClockData_eq, fcrClockData_eq, leftBits, rightBits] at same
  -- The second write of the first cell raises the clock over the data bit.
  have raised := Option.some.inj (congrArg (fun data => data[2]?) same)
  have pins : (clockPin dtaBase channel).getLsbD
        (if channel = 1 then 8 else 0) = true ∧
      (clockPin clkBase channel).getLsbD (if channel = 1 then 8 else 0) =
        false := by
    by_cases second : channel = 1 <;> simp [clockPin, second, dtaBase, clkBase]
  have bit := congrArg
    (fun word => word.getLsbD (if channel = 1 then 8 else 0)) raised
  simp only [BitVec.getLsbD_or, getLsbD_switchBits, pins.1, pins.2, if_true,
    Bool.or_false] at bit
  exact bit

theorem mpiolvlWrites_topBit {port : Port} {left right : BitVec 32}
    (same : (cardMachine .pci).trace (fastcomSetClockBitsPci port left) state =
      (cardMachine .pci).trace (fastcomSetClockBitsPci port right) state) :
    left.getLsbD 23 = right.getLsbD 23 := by
  have writes := congrArg mpiolvlWrites same
  have first : ∀ word : BitVec 32, ∃ later,
      clockWordBitsPci word = word.getLsbD 23 :: later := fun word => ⟨_, rfl⟩
  rcases first left with ⟨leftLater, leftBits⟩
  rcases first right with ⟨rightLater, rightBits⟩
  rw [mpiolvlWrites_setClockBitsPci, mpiolvlWrites_setClockBitsPci, leftBits,
    rightBits] at writes
  have driven := Option.some.inj (congrArg List.head? writes)
  have bit := congrArg (fun word => word.getLsbD 0) driven
  simp only [getLsbD_switchBits, show mpioSdta.getLsbD 0 = true from rfl,
    if_true] at bit
  exact bit

theorem and_threeBytes (top high middle low : BitVec 8) :
    (top ++ high ++ middle ++ low) &&& (0x00#8 ++ 0xff#8 ++ 0xff#8 ++ 0xff#8) =
      0#8 ++ high ++ middle ++ low := by
  have ones : ∀ byte : BitVec 8, byte &&& 0xff#8 = byte := by decide
  simp only [BitVec.and_append, ones, BitVec.and_zero]

theorem setClockBitsPci_of_threeBytes (port : Port)
    {left right : Fin 20 → BitVec 8}
    (agree : ∀ index : Fin 20, index.val < 3 → left index = right index) :
    fastcomSetClockBitsPci port (clockWordPci left) =
      fastcomSetClockBitsPci port (clockWordPci right) := by
  have low : ∀ clockData : Fin 20 → BitVec 8,
      clockWordPci clockData &&& 0x00ffffff =
        0#8 ++ clockData 2 ++ clockData 1 ++ clockData 0 :=
    fun clockData => and_threeBytes _ _ _ _
  simp only [fastcomSetClockBitsPci, low, agree 0 (by decide),
    agree 1 (by decide), agree 2 (by decide)]

theorem clockWordPci_topBit (clockData : Fin 20 → BitVec 8) :
    (clockWordPci clockData).getLsbD 23 = (clockData 2).getLsbD 7 := by
  simp only [clockWordPci, BitVec.getLsbD_append]
  rfl

/-- The bytes that have to get through to set a clock word. Without memory for
the staging array FSCC cards fail cleanly. -/
def ClockBitsCopied (type : CardType) (copied : Nat) (allocated : Bool) : Prop :=
  match type with
  | .pci => 3 ≤ copied
  | .fscc => 20 ≤ copied ∨ allocated = false
  | .pcie | .unknown => True

theorem run_setClockBits (port : Port) (clockData : Fin 20 → BitVec 8)
    (allocated : Bool) :
    ∃ status, port.card.machine.run
      (fastcomSetClockBits port clockData allocated) state =
        (some status, state) := by
  rw [Card.machine, show fastcomGetCardType2 port.card = fastcomGetCardType port
    from rfl]
  unfold fastcomSetClockBits
  cases fastcomGetCardType port with
  | pci => exact ⟨0, run_setClockBitsPci port state _⟩
  | fscc => exact ⟨_, run_setClockBitsFscc _ port state clockData allocated⟩
  | pcie | unknown => exact ⟨-eprotonosupport, rfl⟩

theorem setClockBits_of_copied {port : Port} {copied : Nat} {allocated : Bool}
    (getsThrough : ClockBitsCopied (fastcomGetCardType port) copied allocated)
    (memory : UserMemory) :
    fastcomSetClockBits port (UserSpace.mk memory copied).copyFromUser.2
        allocated =
      fastcomSetClockBits port (fun index => memory index) allocated := by
  have through : ∀ index : Fin 20, index.val < copied →
      (UserSpace.mk memory copied).copyFromUser.2 index = memory index :=
    fun index inside => if_pos inside
  unfold fastcomSetClockBits
  cases type : fastcomGetCardType port with
  | pci =>
      rw [type] at getsThrough
      apply setClockBitsPci_of_threeBytes
      intro index low
      exact through index (Nat.lt_of_lt_of_le low getsThrough)
  | fscc =>
      rw [type] at getsThrough
      rcases getsThrough with complete | noMemory
      · have same : (UserSpace.mk memory copied).copyFromUser.2 =
            fun index : Fin 20 => memory index := by
          funext index
          exact through index (Nat.lt_of_lt_of_le index.isLt complete)
        rw [same]
      · subst noMemory
        simp [fastcomSetClockBitsFscc]
  | pcie | unknown => rfl

def passedOnes (copied : Nat) : Fin 20 → BitVec 8 :=
  (UserSpace.mk (fun _ => 0xff) copied).copyFromUser.2

theorem passedOnes_of_missed {copied : Nat} {index : Fin 20}
    (missed : ¬index.val < copied) : passedOnes copied index = 0 :=
  if_neg missed

theorem trace_setClockBits_of_honours {port : Port} {arg : BitVec 64}
    {copied : Nat} {allocated : Bool}
    (honours : HonoursCaller port arg copied allocated state .setClockBits)
    (run : port.card.machine.run
      (fastcomSetClockBits port (passedOnes copied) allocated) state =
        (some 0, state)) :
    port.card.machine.trace
        (fastcomSetClockBits port (passedOnes copied) allocated) state =
      port.card.machine.trace
        (fastcomSetClockBits port (fun _ => 0xff) allocated) state := by
  let memory : UserMemory := fun _ => 0xff
  have runCall : port.card.machine.run
      (serialfcIoctl port arg ⟨memory, copied⟩ allocated .setClockBits) state =
        (some (0, memory), state) := by
    change port.card.machine.run (do
      pure (← fastcomSetClockBits port (passedOnes copied) allocated, memory))
      state = _
    rw [Machine.run_bind, run]
    rfl
  have traceCall : port.card.machine.trace
      (serialfcIoctl port arg ⟨memory, copied⟩ allocated .setClockBits) state =
        port.card.machine.trace
          (fastcomSetClockBits port (passedOnes copied) allocated) state := by
    change port.card.machine.trace (do
      pure (← fastcomSetClockBits port (passedOnes copied) allocated, memory))
      state = _
    rw [Machine.trace_bind, run]
    exact List.append_nil _
  rw [← traceCall]
  exact ((honours memory _ _ _ runCall).1 rfl).2

theorem copied_of_trace_pci {port : Port} {copied : Nat}
    (same : (cardMachine .pci).trace
        (fastcomSetClockBitsPci port (clockWordPci (passedOnes copied))) state =
      (cardMachine .pci).trace
        (fastcomSetClockBitsPci port (clockWordPci fun _ => 0xff)) state) :
    3 ≤ copied := by
  by_contra short
  have topBit := mpiolvlWrites_topBit same
  have missed : ¬(2 : Fin 20).val < copied := fun inside => short inside
  rw [clockWordPci_topBit, clockWordPci_topBit, passedOnes_of_missed missed]
    at topBit
  cases topBit

theorem copied_of_trace_fscc {port : Port} {copied : Nat}
    (same : (cardMachine .fscc).trace
        (fastcomSetClockBitsFscc port (passedOnes copied) true) state =
      (cardMachine .fscc).trace
        (fastcomSetClockBitsFscc port (fun _ => 0xff) true) state) :
    20 ≤ copied := by
  by_contra short
  have staged := congrArg fcrWrites same
  rw [fcrWrites_setClockBitsFscc, fcrWrites_setClockBitsFscc] at staged
  have topBit := fcrClockData_topBit staged
  have missed : ¬(19 : Fin 20).val < copied := fun inside => short inside
  -- The quartz bit that the driver forces is in another byte.
  rw [forceXtal, forceXtal, Function.update_of_ne (by decide),
    Function.update_of_ne (by decide), passedOnes_of_missed missed] at topBit
  cases topBit

theorem copied_of_honoursCaller_setClockBits {port : Port} {arg : BitVec 64}
    {copied : Nat} {allocated : Bool}
    (honours : HonoursCaller port arg copied allocated state .setClockBits) :
    ClockBitsCopied (fastcomGetCardType port) copied allocated := by
  have sameTrace := trace_setClockBits_of_honours honours
  rw [Card.machine, show fastcomGetCardType2 port.card = fastcomGetCardType port
    from rfl] at sameTrace
  unfold fastcomSetClockBits at sameTrace
  cases type : fastcomGetCardType port with
  | pci =>
      rw [type] at sameTrace
      exact copied_of_trace_pci (sameTrace (run_setClockBitsPci port state _))
  | fscc =>
      rw [type] at sameTrace
      cases allocated with
      | false => exact .inr rfl
      | true =>
          exact .inl (copied_of_trace_fscc
            (sameTrace (run_setClockBitsFscc _ port state _ true)))
  | pcie | unknown => trivial

theorem honoursCaller_setClockBits_iff (port : Port) (arg : BitVec 64)
    (copied : Nat) (allocated : Bool) :
    HonoursCaller port arg copied allocated state .setClockBits ↔
      ClockBitsCopied (fastcomGetCardType port) copied allocated := by
  constructor
  · exact copied_of_honoursCaller_setClockBits
  · intro copies memory
    change (Duty.set _).Honoured _ (do
      pure (← fastcomSetClockBits port
        (UserSpace.mk memory copied).copyFromUser.2 allocated, memory)) memory state
    rw [setClockBits_of_copied copies memory]
    apply honoured_set
    intro status next run _
    rcases @run_setClockBits state port (fun index => memory index)
      allocated with ⟨actual, same⟩
    rw [same] at run
    exact (Prod.mk.inj run).2.symm

end ClockBits

/-! ## All commands -/

/-- A get that the card has needs its four bytes copied; any other must not
copy a byte. -/
def GetCopied (supported : Prop) [Decidable supported] (copied : Nat) : Prop :=
  if supported then 4 ≤ copied else copied = 0

/-- How many bytes have to get through for a command to be honoured. The
answer to `getBaudRate` is never copied in full: where the family has it, only
a fault on one of its divisions keeps it from returning zero. -/
def Command.Copied (port : Port) (copied : Nat) (allocated : Bool)
    (state : CardState) : Command → Prop
  | .getRs485 => copiedSetting .rs485
  | .getEchoCancel => copiedSetting .echoCancel
  | .getTermination => copiedSetting .termination
  | .getSampleRate => copiedSetting .sampleRate
  | .getTxTrigger => copiedSetting .txTrigger
  | .getRxTrigger => copiedSetting .rxTrigger
  | .getIsochronous => copiedSetting .isochronous
  | .getExternalTransmit => copiedSetting .externalTransmit
  | .getFrameLength => copiedSetting .frameLength
  | .getCardType => 4 ≤ copied
  | .get9bit => copied = 0
  | .getBaudRate =>
      if fastcomGetCardType port = .pcie then
        (state.fields port.channel).sampleRate = 0 ∨
          latchedDivisor (state.uart port.channel).banked = 0
      else copied = 0
  | .getDevInfo => copied = 0 ∨ 6 ≤ copied
  | .setClockBits =>
      ClockBitsCopied (fastcomGetCardType port) copied allocated
  | _ => True
where
  copiedSetting (setting : Setting) : Prop :=
    GetCopied (setting.SupportedBy (fastcomGetCardType port)
      (state.firmwareRevision port.channel).toNat) copied

section Commands

variable {port : Port} (known : fastcomGetCardType port ≠ .unknown)
  (arg : BitVec 64) (copied : Nat) (allocated : Bool) (state : CardState)
include known

theorem honoured_setting_iff (setting : Setting) :
    (∀ memory, (Duty.unsigned (setting.get port 0)).Honoured port.card.machine
      (do
        let (errorCode, tmp) ← setting.get port 0
        pure ((UserSpace.mk memory copied).answer errorCode tmp.toNat))
      memory state) ↔
      GetCopied (setting.SupportedBy (fastcomGetCardType port)
        (state.firmwareRevision port.channel).toNat) copied := by
  rcases get_answers known setting 0 state with
    ⟨status, value, next, run, supported, failsClean⟩
  have honoured : _ ↔ if status = 0 then 4 ≤ copied ∧ 4 ≤ 4 else copied = 0 :=
    honoured_get_iff BitVec.toNat 4 run failsClean
  refine Iff.trans honoured ?_
  unfold GetCopied
  by_cases zero : status = 0
  · rw [if_pos zero, if_pos (supported.mp zero)]
    exact and_iff_left (Nat.le_refl 4)
  · rw [if_neg zero, if_neg fun isSupported => zero (supported.mpr isSupported)]

theorem set_failsClean (setting : Setting) (value : BitVec 32) (status : Int)
    (next : CardState)
    (run : port.card.machine.run (setting.set port value) state =
      (some status, next)) (failed : status ≠ 0) : next = state := by
  rcases set_succeeds_or_refuses known setting value state with
    ⟨_, after, succeeds⟩ | ⟨_, refusal, _, refuses, _⟩
  · have same : some status = some 0 :=
      (Prod.mk.inj (run.symm.trans succeeds)).1
    exact absurd (Option.some.inj same) failed
  · exact (Prod.mk.inj (run.symm.trans refuses)).2

theorem honoured_setting (setting : Setting) (value : BitVec 32)
    (memory : UserMemory) :
    (Duty.set (setting.set port value)).Honoured port.card.machine
      (do pure (← setting.set port value, memory)) memory state :=
  honoured_set (set_failsClean known state setting value)

theorem honoured_rs485 (value : BitVec 32) (memory : UserMemory) :
    (Duty.set (fastcomSetRs485 port value)).Honoured port.card.machine
      (do
        (do let _ ← fastcomSetRs485 port value)
        pure (0, memory)) memory state := by
  rcases set_succeeds_or_refuses known .rs485 value state with
    ⟨_, next, succeeds⟩ | ⟨outside, _⟩
  · exact honoured_set_of_dropped succeeds
  · exact absurd known outside

theorem honoured_echoCancel (value : BitVec 32) (memory : UserMemory) :
    (Duty.set (Setting.echoCancel.set port value)).Honoured port.card.machine
      (do
        fastcomSetEchoCancel port value
        pure (0, memory)) memory state := by
  have honoured := honoured_setting known state .echoCancel value memory
  simpa [Setting.set] using honoured

omit known in
theorem honoured_unsupported_iff :
    (∀ memory, (Duty.unsigned (pure (-eprotonosupport, 0))).Honoured
      port.card.machine
      (do
        let (errorCode, tmp) ← (pure (-eprotonosupport, 0) :
          Driver (Int × BitVec 32))
        pure ((UserSpace.mk memory copied).answer errorCode tmp.toNat))
      memory state) ↔ copied = 0 := by
  have run : port.card.machine.run
      (pure (-eprotonosupport, 0) : Driver (Int × BitVec 32)) state =
        (some (-eprotonosupport, 0), state) := rfl
  have failed : ¬-eprotonosupport = 0 := by decide
  refine Iff.trans (honoured_get_iff BitVec.toNat 4 run fun _ => rfl) ?_
  rw [if_neg failed]

omit known in
theorem honoured_constant_iff (value : BitVec 32) :
    (∀ memory, (Duty.unsigned (pure (0, value))).Honoured port.card.machine
      (pure ((UserSpace.mk memory copied).answer 0 value.toNat)) memory
      state) ↔ 4 ≤ copied := by
  have run : port.card.machine.run
      (pure (0, value) : Driver (Int × BitVec 32)) state =
        (some (0, value), state) := rfl
  have failsClean : (0 : Int) ≠ 0 → state = state := fun _ => rfl
  refine Iff.trans (honoured_get_iff BitVec.toNat 4 run failsClean) ?_
  rw [if_pos rfl]
  exact and_iff_left (Nat.le_refl 4)

/-- The result is eight bytes wide, and at most four are copied. -/
theorem honoured_getBaudRate_iff :
    HonoursCaller port arg copied allocated state .getBaudRate ↔
      Command.getBaudRate.Copied port copied allocated state := by
  change (∀ memory, (Duty.get 8 _).Honoured _ (do
      let (errorCode, baudRate) ← fastcomGetBaudRate port 0
      pure ((UserSpace.mk memory copied).answer errorCode baudRate.toNat))
      memory state) ↔
    if fastcomGetCardType port = .pcie then _ ∨ _ else copied = 0
  unfold fastcomGetBaudRate
  rw [Card.machine, show fastcomGetCardType2 port.card = fastcomGetCardType port
    from rfl]
  cases type : fastcomGetCardType port with
  | pcie =>
      rw [if_pos rfl]
      by_cases zero : (state.fields port.channel).sampleRate = 0 ∨
          latchedDivisor (state.uart port.channel).banked = 0
      · refine iff_of_true ?_ zero
        have faults := run_pcieGetBaudRate_faults port state zero
        intro memory code after next run
        rw [Machine.run_bind] at run
        rcases runGet : (cardMachine .pcie).run (pcieGetBaudRate port) state with
          ⟨_ | answer, last⟩
        · rw [runGet] at run
          cases run
        · rw [runGet] at faults
          cases faults
      · rcases not_or.mp zero with ⟨rateNonzero, divisorNonzero⟩
        have run := run_pcieGetBaudRate port state rateNonzero divisorNonzero
        have failsClean : (0 : Int) ≠ 0 → state = state := fun _ => rfl
        refine Iff.trans (honoured_get_iff BitVec.toNat 8 run failsClean) ?_
        rw [if_pos rfl]
        exact iff_of_false (by omega) zero
  | pci | fscc =>
      have failed : ¬-eprotonosupport = 0 := by decide
      refine Iff.trans (honoured_get_iff BitVec.toNat 8
        (Machine.run_pure _ (-eprotonosupport, (0 : BitVec 64)) state)
        fun _ => rfl) ?_
      rw [if_neg failed]
      simp
  | unknown => exact absurd type known

omit known in
theorem honoured_getDevInfo_iff :
    HonoursCaller port arg copied allocated state .getDevInfo ↔
      copied = 0 ∨ 6 ≤ copied := by
  let value := (devInfo port.card.pciDev).toNat
  have runCall : ∀ memory, port.card.machine.run
      (serialfcIoctl port arg ⟨memory, copied⟩ allocated .getDevInfo) state =
        (some (if 6 - copied ≠ 0 then -enodata else 0,
          ((UserSpace.mk memory copied).copyToUser 6 value).2), state) :=
    fun _ => rfl
  by_cases complete : 6 ≤ copied
  · refine iff_of_true ?_ (.inr complete)
    rw [if_neg (by omega)] at runCall
    intro memory code after next run
    rw [runCall memory] at run
    rcases run with ⟨⟨rfl, rfl⟩, rfl⟩
    have stores : ∀ memory : UserMemory, ∀ index < 6,
        ((UserSpace.mk memory copied).copyToUser 6 value).2 index =
          objectByte value index :=
      copyToUser_stores_iff.mpr ⟨complete, Nat.le_refl 6⟩
    exact ⟨fun _ => ⟨value, state, rfl, stores memory⟩,
      fun failed => absurd rfl failed⟩
  · have failed : -enodata ≠ 0 := by decide
    rw [if_pos (by omega)] at runCall
    rw [or_iff_left complete,
      ← @copyToUser_unchanged_iff copied 6 value (by decide)]
    constructor
    · intro honours memory
      exact ((honours memory _ _ _ (runCall memory)).2 failed).1
    · intro unchanged memory code after next run
      rw [runCall memory] at run
      rcases run with ⟨⟨rfl, rfl⟩, rfl⟩
      exact ⟨fun isZero => absurd isZero failed,
        fun _ => ⟨unchanged memory, .refl state⟩⟩

theorem honoured_setBaudRate (memory : UserMemory) :
    (Duty.set (fastcomSetBaudRate port arg)).Honoured port.card.machine
      (do pure (← fastcomSetBaudRate port arg, memory)) memory state := by
  apply honoured_set
  rw [Card.machine, show fastcomGetCardType2 port.card = fastcomGetCardType port
    from rfl]
  unfold fastcomSetBaudRate
  intro status next run failed
  cases type : fastcomGetCardType port with
  | pcie =>
      rw [type] at run
      exact pcieSetBaudRate_fails_unchanged port state run failed
  | pci | fscc =>
      rw [type] at run
      exact (Prod.mk.inj run).2.symm
  | unknown => exact absurd type known

/-- The handler honours a command exactly when enough of it gets through. -/
theorem serialfcIoctl_honoursCaller_iff (command : Command) :
    HonoursCaller port arg copied allocated state command ↔
      command.Copied port copied allocated state := by
  have setting := honoured_setting known state
  have getting := honoured_setting_iff known copied state
  have refused : ∀ (status : Int) memory,
      (Duty.set (pure status)).Honoured port.card.machine
        (do pure (← (pure status : Driver Int), memory)) memory state := by
    intro status memory
    apply honoured_set
    intro _ next run _
    exact (Prod.mk.inj run).2.symm
  cases command with
  | enableRs485 | disableRs485 =>
      exact iff_of_true (honoured_rs485 known state _) trivial
  | getRs485 => exact getting .rs485
  | enableEchoCancel | disableEchoCancel =>
      exact iff_of_true (honoured_echoCancel known state _) trivial
  | getEchoCancel =>
      have program : ∀ memory,
          serialfcIoctl port arg ⟨memory, copied⟩ allocated .getEchoCancel =
            (do
              let (errorCode, tmp) ← Setting.echoCancel.get port 0
              pure ((UserSpace.mk memory copied).answer errorCode tmp.toNat)) := by
        intro memory
        simp [serialfcIoctl, Setting.get]
      unfold HonoursCaller
      simp only [program]
      exact getting .echoCancel
  | enableTermination | disableTermination =>
      exact iff_of_true (setting .termination _) trivial
  | getTermination => exact getting .termination
  | setSampleRate => exact iff_of_true (setting .sampleRate _) trivial
  | getSampleRate => exact getting .sampleRate
  | setTxTrigger => exact iff_of_true (setting .txTrigger _) trivial
  | getTxTrigger => exact getting .txTrigger
  | setRxTrigger => exact iff_of_true (setting .rxTrigger _) trivial
  | getRxTrigger => exact getting .rxTrigger
  | setClockRate => exact iff_of_true (refused _) trivial
  | setClockBits =>
      exact honoursCaller_setClockBits_iff port arg copied allocated
  | enableIsochronous | disableIsochronous =>
      exact iff_of_true (setting .isochronous _) trivial
  | getIsochronous => exact getting .isochronous
  | enableExternalTransmit | disableExternalTransmit =>
      exact iff_of_true (setting .externalTransmit _) trivial
  | getExternalTransmit => exact getting .externalTransmit
  | setFrameLength => exact iff_of_true (setting .frameLength _) trivial
  | getFrameLength => exact getting .frameLength
  | getCardType => exact honoured_constant_iff copied state _
  | enable9bit | disable9bit => exact iff_of_true (refused _) trivial
  | get9bit => exact honoured_unsupported_iff copied state
  | setBaudRate =>
      exact iff_of_true (honoured_setBaudRate known arg state) trivial
  | getBaudRate => exact honoured_getBaudRate_iff known arg copied allocated state
  | getDevInfo => exact honoured_getDevInfo_iff arg copied allocated state
  | enableFixedBaudRate | disableFixedBaudRate | getFixedBaudRate | unknown =>
      exact iff_of_true (fun _ => honoured_refusal _) trivial

end Commands

/-- A trigger level that is copied in full. -/
theorem getTxTrigger_honoursCaller :
    HonoursCaller ⟨Card.ofDevice fc422_8PcieId 8, 7⟩ 0 4 true .blank
      .getTxTrigger := by
  apply (serialfcIoctl_honoursCaller_iff (by decide) 0 4 true .blank
    .getTxTrigger).mpr
  rw [Command.Copied, Command.Copied.copiedSetting, GetCopied,
    if_pos (by decide)]

def fastestPort : CardState :=
  (CardState.blank.setField 0 .sampleRate 16).setDivisor 0 1

/-- A failed copy of a get is not reported, nor is one of a clock word, and
half of a baud rate is missing from a copy that succeeds. -/
theorem serialfcIoctl_breaks :
    ¬HonoursCaller ⟨Card.ofDevice fc422_2Pci335Id 2, 0⟩ 0 0 true .blank
        .getRs485 ∧
      ¬HonoursCaller ⟨Card.ofDevice fsccId 2, 0⟩ 0 19 true .blank
        .setClockBits ∧
      ¬HonoursCaller ⟨Card.ofDevice fc422_4PcieId 4, 0⟩ 0 8 true fastestPort
        .getBaudRate := by
  refine ⟨?_, ?_, ?_⟩
  · intro honours
    have copies := (honoured_setting_iff (by decide) 0 .blank .rs485).mp honours
    rw [GetCopied, if_pos (by decide)] at copies
    cases copies
  · intro honours
    have copies := (honoursCaller_setClockBits_iff _ 0 19 true).mp honours
    rcases copies with complete | noMemory
    · omega
    · cases noMemory
  · intro honours
    have faults := (honoured_getBaudRate_iff (by decide) 0 8 true _).mp honours
    rw [Command.Copied, if_pos (by decide)] at faults
    exact absurd faults (by decide)

end SerialFc
