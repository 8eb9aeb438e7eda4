import SerialFc.Driver.Calls
import SerialFc.Driver.Views
import SerialFc.Fscc.Runs
import SerialFc.Fscc.ClockBits

/-! # The clock generators of an FSCC card, from its probe on

Both clock generators hang on FCR, next to RS485, echo cancel and asynchronous
mode. Whatever is called on either port, each of them latches the words that
were programmed on its own port, in order, and no others.
-/

namespace SerialFc

/-! ## The word in the clock generator -/

/-- The bytes of a clock generator's shift register: the last 160 bits, the
last of them at the bottom of byte 0. -/
def programmedWord (latched : List Bool) : Fin 20 → BitVec 8 := fun index =>
  (BitVec.ofBoolListBE latched).extractLsb' (8 * index) 8

theorem getElem?_flatMap_of_length {α β : Type} {piece : α → List β} {size : Nat}
    (sameSize : ∀ item, (piece item).length = size) (items : List α)
    (index : Nat) {offset : Nat} (inside : offset < size) :
    (items.flatMap piece)[size * index + offset]? =
      items[index]?.bind fun item => (piece item)[offset]? := by
  induction items generalizing index with
  | nil => simp
  | cons item items induction =>
      rw [List.flatMap_cons]
      cases index with
      | zero =>
          rw [List.getElem?_append_left (by rw [sameSize]; omega)]
          simp
      | succ index =>
          have beyond : size * (index + 1) + offset - (piece item).length =
              size * index + offset := by
            rw [sameSize, Nat.mul_add]
            omega
          rw [List.getElem?_append_right (by rw [sameSize, Nat.mul_add]; omega),
            beyond, induction index]
          simp

theorem reverse_clockWordBits (clockData : Fin 20 → BitVec 8) (index : Fin 20)
    {bit : Nat} (small : bit < 8) :
    (clockWordBits clockData).reverse[8 * index.val + bit]? =
      some ((clockData index).getLsbD bit) := by
  have reversed : (clockWordBits clockData).reverse =
      (List.finRange 20).flatMap fun i =>
        (List.range 8).map (clockData i).getLsbD := by
    simp [clockWordBits, byteBits, List.flatMap_reverse, Function.comp_def]
  rw [reversed, getElem?_flatMap_of_length (fun i => by simp) _ _ small]
  simp [small]

/-- Whatever was shifted in before, the register holds the last word. -/
theorem programmedWord_append (earlier : List Bool) (clockData : Fin 20 → BitVec 8) :
    programmedWord (earlier ++ clockWordBits clockData) = clockData := by
  funext index
  apply BitVec.eq_of_getLsbD_eq
  intro bit small
  have low : 8 * index.val + bit < 160 := by
    omega
  have length := length_clockWordBits clockData
  have atBit := reverse_clockWordBits clockData index small
  rw [List.getElem?_reverse (by omega), length] at atBit
  simp only [programmedWord, BitVec.getLsbD_extractLsb', small, decide_true,
    Bool.true_and, BitVec.getLsbD_ofBoolListBE, List.length_append, length]
  have position : earlier.length + 160 - 1 - (8 * index.val + bit) =
      earlier.length + (160 - 1 - (8 * index.val + bit)) := by
    omega
  rw [decide_eq_true (by omega), Bool.true_and, position,
    List.getD_eq_getElem?_getD, List.getElem?_append_right (by omega),
    Nat.add_sub_cancel_left, atBit]
  rfl

/-! ## Calls that leave the clock pins alone -/

def clockPins : BitVec 32 := 0x00000f0f

structure SameClock (before after : CardState) : Prop where
  pins : after.fcr &&& clockPins = before.fcr &&& clockPins
  bar0 : after.bar0 = before.bar0

theorem SameClock.trans {before middle after : CardState}
    (first : SameClock before middle) (second : SameClock middle after) :
    SameClock before after :=
  ⟨second.pins.trans first.pins, second.bar0.trans first.bar0⟩

theorem SameClock.xtalDisabled {before after : CardState}
    (same : SameClock before after) (channel : Nat) :
    after.xtalDisabled channel = before.xtalDisabled channel := by
  have pdev : after.pdev channel = before.pdev channel := by
    rw [CardState.pdev, same.bar0, CardState.pdev]
  have prev : after.prev channel = before.prev channel := by
    rw [CardState.prev, same.bar0, CardState.prev]
  rw [CardState.xtalDisabled, CardState.xtalDisabled, pdev, prev]

def LeavesClock (word : BitVec 32) : Access → Prop
  | .iowrite32 .bar0 .. => False
  | .iowrite32 .bar2 _ value => value &&& clockPins = word &&& clockPins
  | _ => True

theorem LeavesClock.execute {state : CardState} {access : Access}
    (leaves : LeavesClock state.fcr access) :
    SameClock state ((cardMachine .fscc).execute state access).2 := by
  cases access with
  | iowrite32 bar offset value =>
      cases bar with
      | bar0 => exact leaves.elim
      | bar2 => exact ⟨leaves, rfl⟩
  | _ => exact ⟨rfl, rfl⟩

theorem LeavesClock.of_same {word other : BitVec 32}
    (same : other &&& clockPins = word &&& clockPins) {access : Access}
    (leaves : LeavesClock word access) : LeavesClock other access := by
  cases access with
  | iowrite32 bar offset value =>
      cases bar with
      | bar0 => exact leaves.elim
      | bar2 => exact Eq.trans leaves same.symm
  | _ => trivial

def KeepsClock (step : CardState × Access) : Prop :=
  SameClock step.1 ((cardMachine .fscc).execute step.1 step.2).2

section Keeping

variable {α : Type} {program : Driver α} {state : CardState}

theorem keepsClock_of_leaves (leaves : program.Performs (LeavesClock state.fcr)) :
    ∀ step ∈ (cardMachine .fscc).steps program state, KeepsClock step :=
  Machine.forall_steps_of_allowed (fun _ _ leaves => LeavesClock.execute leaves)
    (fun _ _ _ same leaves => LeavesClock.of_same same.pins leaves) leaves

theorem keepsClock_of_ioread8 {port : Port} {offset : Nat}
    {rest : BitVec 8 → Driver α}
    (later : ∀ byte, ∀ step ∈ (cardMachine .fscc).steps (rest byte) state,
      KeepsClock step) :
    ∀ step ∈ (cardMachine .fscc).steps (ioread8 port offset >>= rest) state,
      KeepsClock step :=
  Machine.forall_steps_of_read rfl ⟨rfl, rfl⟩ (later _)

theorem keepsClock_of_fcr {rest : BitVec 32 → Driver α}
    (leaves : (rest state.fcr).Performs (LeavesClock state.fcr)) :
    ∀ step ∈ (cardMachine .fscc).steps (ioread32 .bar2 0 >>= rest) state,
      KeepsClock step :=
  Machine.forall_steps_of_read rfl ⟨rfl, rfl⟩ (keepsClock_of_leaves leaves)

theorem sameClock_run
    (keeps : ∀ step ∈ (cardMachine .fscc).steps program state, KeepsClock step) :
    SameClock state ((cardMachine .fscc).run program state).2 :=
  Machine.run_preserves _ (SameClock state) program state
    (fun step member same => same.trans (keeps step member)) ⟨rfl, rfl⟩

end Keeping

theorem fcrLines_of_clockPins {channel : Nat} (small : channel < 2)
    {left right : BitVec 32} (same : left &&& clockPins = right &&& clockPins) :
    fcrLines channel left = fcrLines channel right := by
  have bits : ∀ position, clockPins.getLsbD position = true →
      left.getLsbD position = right.getLsbD position := by
    intro position isPin
    have atPosition := congrArg (fun word => word.getLsbD position) same
    simpa [BitVec.getLsbD_and, isPin] using atPosition
  interval_cases channel
  · exact Lines.mk.injEq .. ▸ ⟨bits 1 rfl, bits 0 rfl, bits 3 rfl⟩
  · exact Lines.mk.injEq .. ▸ ⟨bits 9 rfl, bits 8 rfl, bits 11 rfl⟩

section Quiet

attribute [local simp] LeavesClock ioread8 iowrite8 ioread32 load store
  loadAcr storeAcr

variable {port : Port} (fscc : fastcomGetCardType port = .fscc)
include fscc

theorem set_quiet (word value : BitVec 32) {setting : Setting}
    (notRs485 : setting ≠ .rs485) (notEcho : setting ≠ .echoCancel) :
    (setting.set port value).Performs (LeavesClock word) := by
  cases setting with
  | rs485 => exact absurd rfl notRs485
  | echoCancel => exact absurd rfl notEcho
  | termination => simp [Setting.set, fastcomSetTermination, fscc]
  | isochronous =>
      simp [Setting.set, fastcomSetIsochronous, fscc, fastcomSetIsochronousFscc]
  | externalTransmit =>
      simp [Setting.set, fastcomSetExternalTransmit, fscc,
        fastcomSetExternalTransmitFscc]
  | frameLength =>
      simp [Setting.set, fastcomSetFrameLength, fscc, fastcomSetFrameLengthFscc,
        fsccGetFrev]
  | txTrigger =>
      simp only [Setting.set, fastcomSetTxTrigger, fscc]
      exact storeIfSet_performs port (by simp [fastcomSetTxTriggerFscc, setTriggerFscc])
        trivial
  | rxTrigger =>
      simp only [Setting.set, fastcomSetRxTrigger, fscc]
      exact storeIfSet_performs port (by simp [fastcomSetRxTriggerFscc, setTriggerFscc])
        trivial
  | sampleRate =>
      simp only [Setting.set, fastcomSetSampleRate, fscc]
      exact storeIfSet_performs port (by simp [fastcomSetSampleRateFscc]) trivial

theorem get_quiet (word before : BitVec 32) (setting : Setting) :
    (setting.get port before).Performs (LeavesClock word) := by
  cases setting with
  | rs485 => simp [Setting.get, fastcomGetRs485, fscc, fastcomGetRs485Fscc]
  | echoCancel =>
      simp [Setting.get, fastcomGetEchoCancel, fscc, fastcomGetEchoCancelFscc]
  | termination => simp [Setting.get, fastcomGetTermination, fscc]
  | isochronous =>
      simp [Setting.get, fastcomGetIsochronous, fscc, fastcomGetIsochronousFscc]
  | externalTransmit =>
      simp [Setting.get, fastcomGetExternalTransmit, fscc,
        fastcomGetExternalTransmitFscc]
  | frameLength =>
      simp [Setting.get, fastcomGetFrameLength, fscc, fastcomGetFrameLengthFscc,
        fsccGetFrev]
  | txTrigger =>
      simp [Setting.get, fastcomGetTxTrigger, fscc, fastcomGetTxTriggerFscc,
        getTriggerFscc]
  | rxTrigger =>
      simp [Setting.get, fastcomGetRxTrigger, fscc, fastcomGetRxTriggerFscc,
        getTriggerFscc]
  | sampleRate => simp [Setting.get, fastcomGetSampleRate]

omit fscc in
theorem rs485BitMask_clockPins (channel : Nat) :
    rs485BitMask channel &&& clockPins = 0#32 := by
  rcases channel with _ | _ | channel <;> simp [rs485BitMask, clockPins]

omit fscc in
theorem echoCancelBitMask_clockPins (channel : Nat) :
    echoCancelBitMask channel &&& clockPins = 0#32 := by
  rcases channel with _ | _ | channel <;> simp [echoCancelBitMask, clockPins]

theorem set_keepsClock (value : BitVec 32) (setting : Setting)
    (state : CardState) :
    ∀ step ∈ (cardMachine .fscc).steps (setting.set port value) state,
      KeepsClock step := by
  by_cases isRs485 : setting = .rs485
  · subst isRs485
    have kept := switchBits_and_of_disjoint (decide (value ≠ 0))
      (rs485BitMask_clockPins port.channel) state.fcr
    simp only [switchBits, decide_eq_true_eq] at kept
    simp only [Setting.set, fastcomSetRs485, fscc, fastcomSetRs485Fscc,
      bind_assoc]
    apply keepsClock_of_ioread8
    intro lcr
    apply keepsClock_of_fcr
    simpa [iowrite32] using kept
  · by_cases isEcho : setting = .echoCancel
    · subst isEcho
      have kept := switchBits_and_of_disjoint (decide (value ≠ 0))
        (echoCancelBitMask_clockPins port.channel) state.fcr
      simp only [switchBits, decide_eq_true_eq] at kept
      simp only [Setting.set, fastcomSetEchoCancel, fscc,
        fastcomSetEchoCancelFscc, bind_assoc]
      apply keepsClock_of_fcr
      simpa [iowrite32] using kept
    · exact keepsClock_of_leaves (set_quiet fscc state.fcr value isRs485 isEcho)

omit fscc in
theorem asyncMask_clockPins {channel : Nat} (small : channel < 2) :
    (0x01000000#32 <<< channel) &&& clockPins = 0#32 := by
  interval_cases channel <;> rfl

theorem enableAsyncMode_keepsClock (small : port.channel < 2)
    (state : CardState) :
    ∀ step ∈ (cardMachine .fscc).steps (fsccEnableAsyncMode port) state,
      KeepsClock step := by
  have kept := switchBits_and_of_disjoint true (asyncMask_clockPins small)
    state.fcr
  simp only [switchBits, if_true] at kept
  simp only [fsccEnableAsyncMode, fscc, ne_eq, not_true_eq_false, if_false]
  apply keepsClock_of_fcr
  simp [iowrite32, kept]

theorem disableAsyncMode_keepsClock (small : port.channel < 2)
    (state : CardState) :
    ∀ step ∈ (cardMachine .fscc).steps (fsccDisableAsyncMode port) state,
      KeepsClock step := by
  have kept := switchBits_and_of_disjoint false (asyncMask_clockPins small)
    state.fcr
  simp only [switchBits, Bool.false_eq_true, if_false] at kept
  simp only [fsccDisableAsyncMode, fscc, ne_eq, not_true_eq_false, if_false]
  apply keepsClock_of_fcr
  simp [iowrite32, kept]

omit fscc in
theorem setClockBits_unallocated_keepsClock (port : Port) (clockData : Fin 20 → BitVec 8)
    (state : CardState) :
    ∀ step ∈ (cardMachine .fscc).steps
      (fastcomSetClockBitsFscc port clockData false) state, KeepsClock step := by
  apply keepsClock_of_leaves
  apply Program.performs_bind (xtalDisabled_performs port trivial)
  intro disabled
  trivial

theorem initTriggers_keepsClock (state : CardState) :
    ∀ step ∈ (cardMachine .fscc).steps (fastcomInitTriggers port) state,
      KeepsClock step := by
  apply keepsClock_of_leaves
  simp [fastcomInitTriggers, fscc]

theorem setAll_keepsClock (settings : List (Setting × BitVec 32))
    (state : CardState) :
    ∀ step ∈ (cardMachine .fscc).steps (setAll port settings) state,
      KeepsClock step := by
  induction settings generalizing state with
  | nil =>
      intro step member
      cases member
  | cons first later induction =>
      rcases first with ⟨setting, value⟩
      apply Machine.forall_steps_bind _ (set_keepsClock fscc value setting state)
      intro status next _
      exact induction next

theorem serialfcPortNew_keepsClock (small : port.channel < 2)
    (fsccEnableAsync : Bool) (state : CardState) :
    ∀ step ∈ (cardMachine .fscc).steps (serialfcPortNew fsccEnableAsync port)
      state, KeepsClock step := by
  simp only [serialfcPortNew, fastcomInitGpio, fscc, pure_bind, reduceCtorEq,
    if_false, setDefaults_eq]
  apply Machine.forall_steps_bind _ (initTriggers_keepsClock fscc state)
  intro _ armed _
  apply Machine.forall_steps_bind _ (setAll_keepsClock fscc _ armed)
  intro _ settled _
  cases fsccEnableAsync with
  | false =>
      intro step member
      cases member
  | true =>
      simp only [true_and, if_true]
      apply Machine.forall_steps_bind _
        (enableAsyncMode_keepsClock fscc small settled)
      intro _ next _ step member
      cases member

end Quiet

/-! ## What a call sends -/

section Sends

variable {port : Port} (fscc : fastcomGetCardType port = .fscc)
  (small : port.channel < 2)

def clockLines (channel : Nat) (state : CardState) : Lines :=
  fcrLines channel state.fcr

theorem sends_of_keepsClock {α : Type} {channel : Nat} (isChannel : channel < 2)
    {program : Driver α} {state : CardState}
    (keeps : ∀ step ∈ (cardMachine .fscc).steps program state, KeepsClock step) :
    (cardMachine .fscc).Sends (clockLines channel) programmedWord program state
      [] :=
  Machine.sends_nil fun step member =>
    fcrLines_of_clockPins isChannel (keeps step member).pins

theorem receive_fcrWrites {α : Type} (channel : Nat) (program : Driver α)
    {state : CardState} {receiver : Receiver}
    (seen : receiver.lines = clockLines channel state) :
    receiver.receive
        ((cardMachine .fscc).levels (clockLines channel) program state) =
      receiver.receive
        ((fcrWrites ((cardMachine .fscc).trace program state)).map
          (fcrLines channel)) := by
  rw [fcrWrites, List.map_filterMap]
  apply Machine.receive_levels _ _ program seen
  · intro state access level written
    cases access with
    | iowrite32 bar offset value =>
        cases bar with
        | bar0 => cases written
        | bar2 => exact Option.some.inj written
    | _ => cases written
  · intro state access notWritten
    cases access with
    | iowrite32 bar offset value =>
        cases bar with
        | bar0 => rfl
        | bar2 => cases notWritten
    | _ => rfl

include small

theorem sends_setClockBits_own (clockData : Fin 20 → BitVec 8)
    (state : CardState) :
    (cardMachine .fscc).Sends (clockLines port.channel) programmedWord
      (fastcomSetClockBitsFscc port clockData true) state
      [forceXtal (state.xtalDisabled port.channel) clockData] := by
  intro receiver seen
  let word := forceXtal (state.xtalDisabled port.channel) clockData
  have noStrobe : List.IsChain NoStrobe
      [⟨false, false, true⟩, fcrLines port.channel state.fcr] :=
    List.isChain_pair.mpr (.inl rfl)
  rw [receive_fcrWrites _ _ seen, fcrWrites_setClockBitsFscc,
    map_fcrLines_clockData small, Receiver.receive_cons,
    Receiver.observe_low _ rfl rfl]
  rw [Receiver.receive_word rfl rfl _ noStrobe]
  simp [Function.comp_def, programmedWord_append]

/-- Before the last write, which puts FCR back, the strobe of the other channel is
low. -/
theorem fcrClockData_strobe {channel : Nat} (isChannel : channel < 2)
    (different : port.channel ≠ channel) (clockData : Fin 20 → BitVec 8)
    (origFcrValue : BitVec 32) {value : BitVec 32}
    (member : value ∈
      (fcrClockData port.channel clockData origFcrValue).dropLast) :
    (fcrLines channel value).strobe = false := by
  have apart : clockPin dtaBase port.channel &&& otherClockPins port.channel =
        0#32 ∧
      clockPin clkBase port.channel &&& otherClockPins port.channel = 0#32 ∧
      clockPin strbBase port.channel &&& otherClockPins port.channel = 0#32 ∧
      fcrKeepMask &&& otherClockPins port.channel = 0#32 := by
    generalize port.channel = own at small
    interval_cases own <;> decide
  have zero := fcrClockData_and_of_disjoint apart.1 apart.2.1 apart.2.2.1 clockData
    origFcrValue member
  rw [BitVec.and_assoc, apart.2.2.2, BitVec.and_zero] at zero
  have pin : (otherClockPins port.channel).getLsbD
      ((if channel = 1 then 8 else 0) + 3) = true := by
    generalize port.channel = own at small different
    interval_cases own <;> interval_cases channel <;>
      first
      | exact absurd rfl different
      | rfl
  exact getLsbD_eq_false_of_disjoint zero pin

theorem sends_setClockBits_other {channel : Nat} (isChannel : channel < 2)
    (different : port.channel ≠ channel) (clockData : Fin 20 → BitVec 8)
    {state : CardState} (idle : (clockLines channel state).strobe = false) :
    (cardMachine .fscc).Sends (clockLines channel) programmedWord
      (fastcomSetClockBitsFscc port clockData true) state [] := by
  intro receiver seen
  have strobeLow : ∀ value ∈ fcrWrites ((cardMachine .fscc).trace
      (fastcomSetClockBitsFscc port clockData true) state),
      (fcrLines channel value).strobe = false := by
    rw [fcrWrites_setClockBitsFscc]
    intro value member
    let word := forceXtal (state.xtalDisabled port.channel) clockData
    have last := getLast?_fcrClockData port.channel word state.fcr
    rcases List.getLast?_eq_some_iff.mp last with ⟨earlier, split⟩
    have early := @fcrClockData_strobe port small channel isChannel different word
      state.fcr value
    rw [split, List.dropLast_concat] at early
    rw [split] at member
    rcases List.mem_append.mp member with isEarly | isLast
    · exact early isEarly
    · rw [List.mem_singleton.mp isLast]
      exact idle
  have noStrobe : List.IsChain NoStrobe (receiver.lines ::
      (fcrWrites ((cardMachine .fscc).trace
        (fastcomSetClockBitsFscc port clockData true) state)).map
          (fcrLines channel)) := by
    apply isChain_noStrobe
    intro lines member
    rcases List.mem_map.mp member with ⟨value, isWrite, rfl⟩
    exact strobeLow value isWrite
  rw [receive_fcrWrites _ _ seen,
    Receiver.receive_latches_of_noStrobe noStrobe, List.append_nil]

end Sends

/-! ## From the probe on -/

def sentClockWords (state : CardState) (channel : Nat) :
    Nat × Operation → List (Fin 20 → BitVec 8)
  | (other, .setClockBits clockData true) =>
      if other = channel then
        [forceXtal (state.xtalDisabled channel) clockData]
      else []
  | _ => []

section Operations

variable {port : Port} (fscc : fastcomGetCardType port = .fscc)
  (small : port.channel < 2)
include fscc small

theorem exists_run_program_fscc (operation : Operation) (state : CardState) :
    ∃ reply next, (cardMachine .fscc).run (operation.program port) state =
      (some reply, next) := by
  have mapped : ∀ {α : Type} {program : Driver α} (format : α → Reply),
      (∃ value next, (cardMachine .fscc).run program state = (some value, next)) →
      ∃ reply next, (cardMachine .fscc).run (format <$> program) state =
        (some reply, next) := by
    rintro α program format ⟨value, next, run⟩
    exact ⟨format value, next, by rw [Machine.run_map, run]; rfl⟩
  cases operation with
  | set setting value =>
      rcases run_set_settles fscc state small value setting with
        ⟨status, next, run, _⟩
      exact mapped .status ⟨status, next, run⟩
  | get setting before =>
      rcases run_get_fscc fscc state before setting with ⟨next, run, _⟩
      exact mapped (fun answer => .value answer.1 answer.2) ⟨_, next, run⟩
  | setClockBits clockData allocated =>
      apply mapped .status
      rw [fastcomSetClockBits, fscc]
      exact ⟨_, _, run_setClockBitsFscc .fscc port state clockData allocated⟩
  | enableAsyncMode =>
      rcases run_enableAsyncMode fscc state small with ⟨next, run, _⟩
      exact mapped .status ⟨0, next, run⟩
  | disableAsyncMode =>
      rcases run_disableAsyncMode fscc state small with ⟨next, run, _⟩
      exact mapped .status ⟨0, next, run⟩
  | setBaudRate value =>
      exact ⟨.status (-eprotonosupport), state,
        by simp [Operation.program, fastcomSetBaudRate, fscc]⟩
  | getBaudRate before =>
      exact ⟨.rate (-eprotonosupport) before, state,
        by simp [Operation.program, fastcomGetBaudRate, fscc]⟩

theorem program_keepsClock {operation : Operation}
    (notClock : ∀ clockData, operation ≠ .setClockBits clockData true)
    (state : CardState) :
    ∀ step ∈ (cardMachine .fscc).steps (operation.program port) state,
      KeepsClock step := by
  cases operation with
  | set setting value =>
      simpa [Operation.program] using set_keepsClock fscc value setting state
  | get setting before =>
      simpa [Operation.program] using
        keepsClock_of_leaves (get_quiet fscc state.fcr before setting)
  | setClockBits clockData allocated =>
      cases allocated with
      | false =>
          simpa [Operation.program, fastcomSetClockBits, fscc] using
            setClockBits_unallocated_keepsClock port clockData state
      | true => exact absurd rfl (notClock clockData)
  | enableAsyncMode =>
      simpa [Operation.program] using enableAsyncMode_keepsClock fscc small state
  | disableAsyncMode =>
      simpa [Operation.program] using disableAsyncMode_keepsClock fscc small state
  | setBaudRate value => simp [Operation.program, fastcomSetBaudRate, fscc]
  | getBaudRate before => simp [Operation.program, fastcomGetBaudRate, fscc]

theorem sends_program {channel : Nat} (isChannel : channel < 2)
    {start state : CardState} (same : SameClock start state)
    (idle : ∀ other < 2, (clockLines other start).strobe = false)
    (operation : Operation) :
    ∃ reply next, (cardMachine .fscc).run (operation.program port) state =
        (some reply, next) ∧ SameClock start next ∧
      (cardMachine .fscc).Sends (clockLines channel) programmedWord
        (operation.program port) state
        (sentClockWords start channel (port.channel, operation)) := by
  rcases exists_run_program_fscc fscc small operation state with
    ⟨reply, next, run⟩
  refine ⟨reply, next, run, ?_⟩
  by_cases isClock : ∃ clockData, operation = .setClockBits clockData true
  · rcases isClock with ⟨clockData, rfl⟩
    have program : (Operation.setClockBits clockData true).program port =
        Reply.status <$> fastcomSetClockBitsFscc port clockData true := by
      simp [Operation.program, fastcomSetClockBits, fscc]
    rw [program, Machine.run_map, run_setClockBitsFscc] at run
    obtain rfl : state = next := (Prod.mk.inj run).2
    refine ⟨same, ?_⟩
    rw [program]
    by_cases isOwn : port.channel = channel
    · have sends := sends_setClockBits_own small clockData state
      rw [isOwn, same.xtalDisabled] at sends
      simpa [sentClockWords, isOwn] using sends.map Reply.status
    · have strobe : (clockLines channel state).strobe = false := by
        rw [clockLines, fcrLines_of_clockPins isChannel same.pins]
        exact idle channel isChannel
      have sends := sends_setClockBits_other small isChannel isOwn clockData strobe
      simpa [sentClockWords, isOwn] using sends.map Reply.status
  · have notClock := not_exists.mp isClock
    have keeps := program_keepsClock fscc small notClock state
    have kept := sameClock_run keeps
    rw [run] at kept
    refine ⟨same.trans kept, ?_⟩
    have nothing : sentClockWords start channel (port.channel, operation) = [] := by
      cases operation with
      | setClockBits clockData allocated =>
          cases allocated with
          | false => rfl
          | true => exact absurd rfl (notClock clockData)
      | _ => rfl
    rw [nothing]
    exact sends_of_keepsClock isChannel keeps

end Operations

/-- Whatever is called on the ports of a card, from its probe on, in any order:
the clock generator of a port latches the words programmed on that port, each
once and in order, with the XTAL bit as the card needs it. No other call makes
it latch anything, on neither port. -/
theorem clockGenerator_latches {card : Card}
    (fscc : fastcomGetCardType2 card = .fscc)
    (board : boardNumPorts card.pciDev.device = some card.numPorts)
    (fsccEnableAsync : Bool) {calls : List (Nat × Operation)}
    (onCard : ∀ call ∈ calls, call.1 < card.numPorts) {state : CardState}
    (idle : ∀ channel < card.numPorts,
      (fcrLines channel state.fcr).strobe = false)
    {channel : Nat} (isPort : channel < card.numPorts) :
    let program := serveCard fsccEnableAsync card calls
    let writes := fcrWrites (card.machine.trace program state)
    let received := (Receiver.starting (fcrLines channel state.fcr)).receive
      (writes.map (fcrLines channel))
    (∃ replies next, card.machine.run program state = (some replies, next)) ∧
      received.latches.map programmedWord =
        calls.flatMap (sentClockWords state channel) := by
  intro program writes received
  have twoPorts : card.numPorts = 2 := (boardNumPorts_range card board).2.2 fscc
  have machine : card.machine = cardMachine .fscc := congrArg cardMachine fscc
  rw [twoPorts] at onCard idle isPort
  rcases @sends_serveCard _ card (clockLines channel) programmedWord
    (SameClock state) fsccEnableAsync (fun _ => [])
    (sentClockWords state channel) calls
    (by
      rw [machine, twoPorts]
      intro other small middle same
      have keeps := @serialfcPortNew_keepsClock ⟨card, other⟩ fscc small
        fsccEnableAsync middle
      rcases @run_serialfcPortNew_fscc ⟨card, other⟩ fscc middle small
        fsccEnableAsync with ⟨next, run, _⟩
      have kept := sameClock_run keeps
      rw [run] at kept
      exact ⟨next, run, same.trans kept, sends_of_keepsClock isPort keeps⟩)
    (by
      rw [machine]
      intro call member middle same
      exact @sends_program ⟨card, call.1⟩ fscc (onCard call member) channel isPort
        state middle same idle call.2)
    state ⟨rfl, rfl⟩ with ⟨replies, next, run, sends⟩
  refine ⟨⟨replies, next, run⟩, ?_⟩
  have latched := sends (Receiver.starting (clockLines channel state)) rfl
  rw [machine] at latched
  rw [receive_fcrWrites channel _ rfl] at latched
  simp only [received, writes, program, machine]
  rw [show fcrLines channel state.fcr = clockLines channel state from rfl, latched]
  simp [Receiver.starting]

/-- Two words for port 1, with calls on both ports around them. -/
theorem clockGenerator_latches_port1 :
    let card := Card.ofDevice fsccId 2
    let first : Fin 20 → BitVec 8 := fun _ => 0x5a
    let second : Fin 20 → BitVec 8 := fun _ => 0xc3
    let calls : List (Nat × Operation) := [(1, .setClockBits first true),
      (0, .set .rs485 1), (0, .setClockBits second true), (1, .enableAsyncMode),
      (1, .setClockBits second true)]
    let writes := fcrWrites (card.machine.trace (serveCard false card calls) .blank)
    let received := (Receiver.starting (fcrLines 1 0)).receive
      (writes.map (fcrLines 1))
    received.latches.map programmedWord =
      [forceXtal false first, forceXtal false second] := by
  intro card first second calls writes received
  have onCard : ∀ call ∈ calls, call.1 < card.numPorts := by
    simp [calls, card, Card.ofDevice]
  have xtal : CardState.blank.xtalDisabled 1 = false := by decide
  have words : calls.flatMap (sentClockWords .blank 1) =
      [forceXtal false first, forceXtal false second] := by
    simp [calls, sentClockWords, xtal]
  have idle : ∀ channel < card.numPorts,
      (fcrLines channel CardState.blank.fcr).strobe = false :=
    fun _ _ => BitVec.getLsbD_zero
  have latched := @clockGenerator_latches card rfl rfl false calls onCard .blank
    idle 1 (by decide)
  exact latched.2.trans words

end SerialFc
