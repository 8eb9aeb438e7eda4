import SerialFc.Driver.Calls
import SerialFc.Exar.PciPins

/-! # The clock generator of a PCI card, from its probe on

The one clock generator of the card hangs on MPIOLVL, next to the driver
enables and echo cancel of all ports. It latches the word that every port is
initialised with, then the words programmed through any port, in order, and no
others.
-/

namespace SerialFc

/-! ## The word in the clock generator -/

def programmedWordPci (latched : List Bool) : BitVec 24 :=
  (BitVec.ofBoolListBE latched).setWidth 24

theorem programmedWordPci_append (earlier : List Bool) (clockData : BitVec 32) :
    programmedWordPci (earlier ++ clockWordBitsPci clockData) =
      clockData.setWidth 24 := by
  apply BitVec.eq_of_getLsbD_eq
  intro bit small
  have length := length_clockWordBitsPci clockData
  have atBit : (clockWordBitsPci clockData)[24 - 1 - bit]? =
      some (clockData.getLsbD bit) := by
    rw [clockWordBitsPci, List.getElem?_map,
      List.getElem?_reverse (by rw [List.length_range]; omega), List.length_range,
      List.getElem?_range (by omega)]
    have back : 24 - 1 - (24 - 1 - bit) = bit := by
      omega
    rw [back]
    rfl
  have position : earlier.length + 24 - 1 - bit =
      earlier.length + (24 - 1 - bit) := by
    omega
  simp only [programmedWordPci, BitVec.getLsbD_setWidth, small, decide_true,
    Bool.true_and, BitVec.getLsbD_ofBoolListBE, List.length_append, length]
  rw [decide_eq_true (by omega), Bool.true_and, position,
    List.getD_eq_getElem?_getD, List.getElem?_append_right (by omega),
    Nat.add_sub_cancel_left, atBit]
  rfl

/-! ## Calls that leave the clock pins alone -/

def clockPinsPci : BitVec 8 := 0x07

structure SameClockPci (before after : CardState) : Prop where
  pins : after.config mpiolvlOffset &&& clockPinsPci =
    before.config mpiolvlOffset &&& clockPinsPci

theorem SameClockPci.trans {before middle after : CardState}
    (first : SameClockPci before middle) (second : SameClockPci middle after) :
    SameClockPci before after :=
  ⟨second.pins.trans first.pins⟩

/-- An access that may change the pins only to what they are in the byte. -/
def LeavesClockPci (byte : BitVec 8) : Access → Prop
  | .iowrite8 _ offset value =>
      offset = mpiolvlOffset → value &&& clockPinsPci = byte &&& clockPinsPci
  | _ => True

theorem LeavesClockPci.execute {state : CardState} {access : Access}
    (leaves : LeavesClockPci (state.config mpiolvlOffset) access) :
    SameClockPci state ((cardMachine .pci).execute state access).2 := by
  constructor
  cases access with
  | iowrite8 channel offset value =>
      change (state.write8 .pci channel offset value).config mpiolvlOffset &&&
        clockPinsPci = _
      by_cases isConfig : configBase ≤ offset
      · by_cases isMpiolvl : offset = mpiolvlOffset
        · subst isMpiolvl
          simpa [CardState.write8, isConfig] using leaves rfl
        · simp [CardState.write8, isConfig, Ne.symm isMpiolvl]
      · simp [CardState.write8, isConfig]
  | iowrite32 bar offset value => cases bar <;> rfl
  | _ => rfl

theorem LeavesClockPci.of_same {byte other : BitVec 8}
    (same : other &&& clockPinsPci = byte &&& clockPinsPci) {access : Access}
    (leaves : LeavesClockPci byte access) : LeavesClockPci other access := by
  cases access with
  | iowrite8 channel offset value =>
      intro isMpiolvl
      exact (leaves isMpiolvl).trans same.symm
  | _ => trivial

def KeepsClockPci (step : CardState × Access) : Prop :=
  SameClockPci step.1 ((cardMachine .pci).execute step.1 step.2).2

section Keeping

variable {α : Type} {program : Driver α} {state : CardState}

theorem keepsClockPci_of_leaves
    (leaves : program.Performs (LeavesClockPci (state.config mpiolvlOffset))) :
    ∀ step ∈ (cardMachine .pci).steps program state, KeepsClockPci step :=
  Machine.forall_steps_of_allowed (fun _ _ leaves => LeavesClockPci.execute leaves)
    (fun _ _ _ same leaves => LeavesClockPci.of_same same.pins leaves) leaves

theorem keepsClockPci_of_ioread8 {port : Port} {offset : Nat}
    {rest : BitVec 8 → Driver α}
    (later : ∀ step ∈ (cardMachine .pci).steps
      (rest (state.read8 .pci port.channel offset)) state, KeepsClockPci step) :
    ∀ step ∈ (cardMachine .pci).steps (ioread8 port offset >>= rest) state,
      KeepsClockPci step :=
  Machine.forall_steps_of_read rfl ⟨rfl⟩ later

theorem sameClockPci_run
    (keeps : ∀ step ∈ (cardMachine .pci).steps program state,
      KeepsClockPci step) :
    SameClockPci state ((cardMachine .pci).run program state).2 :=
  Machine.run_preserves _ (SameClockPci state) program state
    (fun step member same => same.trans (keeps step member)) ⟨rfl⟩

def clockLinesPci (state : CardState) : Lines :=
  mpiolvlLines (state.config mpiolvlOffset)

theorem clockLinesPci_of_same {before after : CardState}
    (same : SameClockPci before after) :
    clockLinesPci after = clockLinesPci before := by
  have bits : ∀ position, clockPinsPci.getLsbD position = true →
      (after.config mpiolvlOffset).getLsbD position =
        (before.config mpiolvlOffset).getLsbD position := by
    intro position isPin
    have atPosition := congrArg (fun byte => byte.getLsbD position) same.pins
    simpa [BitVec.getLsbD_and, isPin] using atPosition
  exact Lines.mk.injEq .. ▸ ⟨bits 1 rfl, bits 0 rfl, bits 2 rfl⟩

theorem sends_of_keepsClockPci
    (keeps : ∀ step ∈ (cardMachine .pci).steps program state,
      KeepsClockPci step) :
    (cardMachine .pci).Sends clockLinesPci programmedWordPci program state [] :=
  Machine.sends_nil fun step member => clockLinesPci_of_same (keeps step member)

theorem receive_mpiolvlWrites (program : Driver α) {receiver : Receiver}
    (seen : receiver.lines = clockLinesPci state) :
    receiver.receive ((cardMachine .pci).levels clockLinesPci program state) =
      receiver.receive
        ((mpiolvlWrites ((cardMachine .pci).trace program state)).map
          mpiolvlLines) := by
  rw [mpiolvlWrites, List.map_filterMap]
  apply Machine.receive_levels _ _ program seen
  · intro state access level written
    cases access with
    | iowrite8 channel offset value =>
        by_cases isMpiolvl : offset = mpiolvlOffset
        · subst isMpiolvl
          simp only [if_true, Option.map_some, Option.some.injEq] at written
          rw [← written]
          simp [clockLinesPci, cardMachine, CardState.write8, configBase,
            mpiolvlOffset]
        · simp [isMpiolvl] at written
    | _ => cases written
  · intro state access notWritten
    apply clockLinesPci_of_same
    apply LeavesClockPci.execute
    cases access with
    | iowrite8 channel offset value =>
        intro isMpiolvl
        simp [isMpiolvl] at notWritten
    | _ => trivial

end Keeping

section Calls

attribute [local simp] LeavesClockPci ioread8 iowrite8 load store uartExarFctr
  uartExarTxtrg uartExarRxtrg uartExar8xmode mpiolvlOffset mpioselOffset
  mpioinvOffset fcrOffset

variable {port : Port} (pci : fastcomGetCardType port = .pci)
include pci

theorem set_quiet_pci (byte : BitVec 8) (value : BitVec 32) {setting : Setting}
    (notRs485 : setting ≠ .rs485) (notEcho : setting ≠ .echoCancel) :
    (setting.set port value).Performs (LeavesClockPci byte) := by
  cases setting with
  | rs485 => exact absurd rfl notRs485
  | echoCancel => exact absurd rfl notEcho
  | termination => simp [Setting.set, fastcomSetTermination, pci]
  | isochronous => simp [Setting.set, fastcomSetIsochronous, pci]
  | externalTransmit => simp [Setting.set, fastcomSetExternalTransmit, pci]
  | frameLength => simp [Setting.set, fastcomSetFrameLength, pci]
  | txTrigger =>
      simp only [Setting.set, fastcomSetTxTrigger, pci]
      exact storeIfSet_performs port (by simp [fastcomSetTxTriggerPci, setTriggerExar])
        trivial
  | rxTrigger =>
      simp only [Setting.set, fastcomSetRxTrigger, pci]
      exact storeIfSet_performs port (by simp [fastcomSetRxTriggerPci, setTriggerExar])
        trivial
  | sampleRate =>
      simp only [Setting.set, fastcomSetSampleRate, pci]
      exact storeIfSet_performs port (by simp [fastcomSetSampleRatePci]) trivial

theorem get_quiet_pci (byte : BitVec 8) (before : BitVec 32) (setting : Setting) :
    (setting.get port before).Performs (LeavesClockPci byte) := by
  cases setting with
  | rs485 => simp [Setting.get, fastcomGetRs485, pci, fastcomGetRs485Pci]
  | echoCancel =>
      simp [Setting.get, fastcomGetEchoCancel, pci, fastcomGetEchoCancelPci]
  | termination => simp [Setting.get, fastcomGetTermination, pci]
  | isochronous => simp [Setting.get, fastcomGetIsochronous, pci]
  | externalTransmit => simp [Setting.get, fastcomGetExternalTransmit, pci]
  | frameLength => simp [Setting.get, fastcomGetFrameLength, pci]
  | txTrigger => simp [Setting.get, fastcomGetTxTrigger, pci]
  | rxTrigger => simp [Setting.get, fastcomGetRxTrigger, pci]
  | sampleRate => simp [Setting.get, fastcomGetSampleRate]

omit pci in
theorem transmitterMask_clockPinsPci (channel : Nat) :
    (0x8#8 <<< channel) &&& clockPinsPci = 0#8 := by
  by_cases low : channel < 5
  · interval_cases channel <;> rfl
  · rw [transmitterMask_eq_zero (Nat.le_of_not_lt low)]
    rfl

theorem set_keepsClockPci (value : BitVec 32) (setting : Setting)
    (state : CardState) :
    ∀ step ∈ (cardMachine .pci).steps (setting.set port value) state,
      KeepsClockPci step := by
  have isMpiolvl : state.read8 .pci port.channel mpiolvlOffset =
      state.config mpiolvlOffset := by
    simp [CardState.read8, configBase]
  by_cases isRs485 : setting = .rs485
  · subst isRs485
    have kept := switchBits_and_of_disjoint (decide (value = 0))
      (transmitterMask_clockPinsPci port.channel) (state.config mpiolvlOffset)
    simp only [Setting.set, fastcomSetRs485, pci, fastcomSetRs485Pci, bind_assoc]
    apply keepsClockPci_of_ioread8
    apply keepsClockPci_of_ioread8
    rw [isMpiolvl]
    apply keepsClockPci_of_leaves
    by_cases zero : value = 0
    · simpa [zero, switchBits] using kept
    · simpa [zero, switchBits] using kept
  · by_cases isEcho : setting = .echoCancel
    · subst isEcho
      have kept := switchBits_and_of_disjoint (decide (value ≠ 0))
        (show 0x80#8 &&& clockPinsPci = 0#8 by rfl) (state.config mpiolvlOffset)
      simp only [Setting.set, fastcomSetEchoCancel, pci,
        fastcomSetEchoCancelPci, bind_assoc]
      apply keepsClockPci_of_ioread8
      rw [isMpiolvl]
      apply keepsClockPci_of_leaves
      by_cases zero : value = 0
      · simpa [zero, switchBits] using kept
      · simpa [zero, switchBits] using kept
    · exact keepsClockPci_of_leaves (set_quiet_pci pci _ value isRs485 isEcho)

theorem setAll_keepsClockPci (settings : List (Setting × BitVec 32))
    (state : CardState) :
    ∀ step ∈ (cardMachine .pci).steps (setAll port settings) state,
      KeepsClockPci step := by
  induction settings generalizing state with
  | nil =>
      intro step member
      cases member
  | cons first later induction =>
      rcases first with ⟨setting, value⟩
      apply Machine.forall_steps_bind _ (set_keepsClockPci pci value setting state)
      intro status next _
      exact induction next

theorem initGpio_keepsClockPci (state : CardState) :
    ∀ step ∈ (cardMachine .pci).steps (fastcomInitGpio port) state,
      KeepsClockPci step := by
  apply keepsClockPci_of_leaves
  simp [fastcomInitGpio, pci]

theorem initTriggers_keepsClockPci (state : CardState) :
    ∀ step ∈ (cardMachine .pci).steps (fastcomInitTriggers port) state,
      KeepsClockPci step := by
  apply keepsClockPci_of_leaves
  simp [fastcomInitTriggers, pci]

theorem program_keepsClockPci {operation : Operation}
    (notClock : ∀ clockData allocated,
      operation ≠ .setClockBits clockData allocated)
    (state : CardState) :
    ∀ step ∈ (cardMachine .pci).steps (operation.program port) state,
      KeepsClockPci step := by
  cases operation with
  | set setting value =>
      simpa [Operation.program] using set_keepsClockPci pci value setting state
  | get setting before =>
      simpa [Operation.program] using
        keepsClockPci_of_leaves (get_quiet_pci pci _ before setting)
  | setClockBits clockData allocated =>
      exact absurd rfl (notClock clockData allocated)
  | enableAsyncMode => simp [Operation.program, fsccEnableAsyncMode, pci]
  | disableAsyncMode => simp [Operation.program, fsccDisableAsyncMode, pci]
  | setBaudRate value => simp [Operation.program, fastcomSetBaudRate, pci]
  | getBaudRate before => simp [Operation.program, fastcomGetBaudRate, pci]

end Calls

/-! ## What a call sends -/

def ClockIdlePci (state : CardState) : Prop :=
  (clockLinesPci state).clock = false ∧ (clockLinesPci state).strobe = false

theorem ClockIdlePci.of_same {before after : CardState}
    (idle : ClockIdlePci before) (same : SameClockPci before after) :
    ClockIdlePci after := by
  unfold ClockIdlePci
  rw [clockLinesPci_of_same same]
  exact idle

theorem sends_setClockBitsPci (port : Port) (clockData : BitVec 32)
    {state : CardState} (idle : ClockIdlePci state) :
    (cardMachine .pci).Sends clockLinesPci programmedWordPci
      (fastcomSetClockBitsPci port clockData) state [clockData.setWidth 24] := by
  intro receiver seen
  let cells := (clockWordBitsPci clockData).map fun bit => BitCell.mk bit bit
  have noStrobe : List.IsChain NoStrobe
      [⟨false, false, true⟩, ⟨false, false, false⟩, clockLinesPci state] := by
    apply List.isChain_cons_cons.mpr
    exact ⟨.inl rfl, List.isChain_pair.mpr (.inr idle.2)⟩
  have streamEq : (mpiolvlWrites ((cardMachine .pci).trace
      (fastcomSetClockBitsPci port clockData) state)).map mpiolvlLines =
      cells.flatMap BitCell.stream ++
        [⟨false, false, true⟩, ⟨false, false, false⟩, clockLinesPci state] := by
    rw [mpiolvlWrites_setClockBitsPci, List.map_append,
      map_mpiolvlLines_shift _ idle.1 idle.2]
    simp only [List.map_cons, List.map_nil, mpiolvlLines_strobe, mpiolvlLines_off]
    rfl
  have clockLow : receiver.lines.clock = false := by
    rw [seen]
    exact idle.1
  have strobeLow : receiver.lines.strobe = false := by
    rw [seen]
    exact idle.2
  rw [receive_mpiolvlWrites _ seen, streamEq,
    Receiver.receive_word clockLow strobeLow cells noStrobe]
  simp [cells, Function.comp_def, programmedWordPci_append]

def sentClockWordsPci : Nat × Operation → List (BitVec 24)
  | (_, .setClockBits clockData _) => [(clockWordPci clockData).setWidth 24]
  | _ => []

section Operations

variable {port : Port} (pci : fastcomGetCardType port = .pci) {state : CardState}
include pci

theorem sends_program_pci (idle : ClockIdlePci state) (operation : Operation) :
    ∃ reply next, (cardMachine .pci).run (operation.program port) state =
        (some reply, next) ∧ ClockIdlePci next ∧
      (cardMachine .pci).Sends clockLinesPci programmedWordPci
        (operation.program port) state
        (sentClockWordsPci (port.channel, operation)) := by
  rcases run_program_pci pci state operation with ⟨reply, next, run, _⟩
  refine ⟨reply, next, run, ?_⟩
  by_cases isClock : ∃ clockData allocated,
      operation = .setClockBits clockData allocated
  · rcases isClock with ⟨clockData, allocated, rfl⟩
    have program : (Operation.setClockBits clockData allocated).program port =
        Reply.status <$> fastcomSetClockBitsPci port (clockWordPci clockData) := by
      simp [Operation.program, fastcomSetClockBits, pci]
    rw [program, Machine.run_map, run_setClockBitsPci] at run
    obtain rfl : state = next := (Prod.mk.inj run).2
    refine ⟨idle, ?_⟩
    rw [program]
    exact (sends_setClockBitsPci port _ idle).map Reply.status
  · have notClock : ∀ clockData allocated,
        operation ≠ .setClockBits clockData allocated := by
      intro clockData allocated same
      exact isClock ⟨clockData, allocated, same⟩
    have keeps := program_keepsClockPci pci notClock state
    have kept := sameClockPci_run keeps
    rw [run] at kept
    refine ⟨idle.of_same kept, ?_⟩
    have nothing : sentClockWordsPci (port.channel, operation) = [] := by
      cases operation with
      | setClockBits clockData allocated =>
          exact absurd rfl (notClock clockData allocated)
      | _ => rfl
    rw [nothing]
    exact sends_of_keepsClockPci keeps

theorem sends_serialfcPortNew_pci (fsccEnableAsync : Bool)
    (idle : ClockIdlePci state) :
    ∃ next, (cardMachine .pci).run (serialfcPortNew fsccEnableAsync port) state =
        (some (), next) ∧ ClockIdlePci next ∧
      (cardMachine .pci).Sends clockLinesPci programmedWordPci
        (serialfcPortNew fsccEnableAsync port) state
        [pci29MhzBits.setWidth 24] := by
  have gpioKeeps := initGpio_keepsClockPci pci state
  rcases run_initGpio_pci pci state with ⟨selected, gpioRun, _⟩
  have gpioSame := sameClockPci_run gpioKeeps
  rw [gpioRun] at gpioSame
  have triggersKeep := initTriggers_keepsClockPci pci selected
  have triggersRun : ∃ armed, (cardMachine .pci).run (fastcomInitTriggers port)
      selected = (some (), armed) := by
    simp [fastcomInitTriggers, pci, Machine.run_bind]
  rcases triggersRun with ⟨armed, triggersRun⟩
  have triggersSame := sameClockPci_run triggersKeep
  rw [triggersRun] at triggersSame
  have armedIdle := (idle.of_same gpioSame).of_same triggersSame
  have clockRun := run_setClockBitsPci port armed pci29MhzBits
  have clockSends := sends_setClockBitsPci port pci29MhzBits armedIdle
  have defaultsKeep := setAll_keepsClockPci pci defaultSettings armed
  have defaultsRun := run_setAll_pci pci defaultSettings armed
  have defaultsSame := sameClockPci_run defaultsKeep
  rw [defaultsRun] at defaultsSame
  have program : serialfcPortNew fsccEnableAsync port = (do
      fastcomInitGpio port
      fastcomInitTriggers port
      let _ ← fastcomSetClockBitsPci port pci29MhzBits
      setAll port defaultSettings) := by
    simp [serialfcPortNew, pci, setDefaults_eq]
  refine ⟨_, ?_, armedIdle.of_same defaultsSame, ?_⟩
  · rw [program]
    simp only [Machine.run_bind, gpioRun, triggersRun, clockRun]
    exact defaultsRun
  · rw [program]
    have defaultsSend := sends_of_keepsClockPci defaultsKeep
    exact (sends_of_keepsClockPci gpioKeeps).bind gpioRun
      ((sends_of_keepsClockPci triggersKeep).bind triggersRun
        (clockSends.bind clockRun defaultsSend))

end Operations

/-- Whatever is called on the ports of a card, from its probe on, in any order:
the clock generator latches the default once for each port, then the words
programmed through any port, each once and in order, and nothing else. -/
theorem clockGenerator_latches_pci {card : Card}
    (pci : fastcomGetCardType2 card = .pci) (fsccEnableAsync : Bool)
    (calls : List (Nat × Operation)) {state : CardState}
    (clockLow : (mpiolvlLines (state.config mpiolvlOffset)).clock = false)
    (strobeLow : (mpiolvlLines (state.config mpiolvlOffset)).strobe = false) :
    let program := serveCard fsccEnableAsync card calls
    let writes := mpiolvlWrites (card.machine.trace program state)
    let received :=
      (Receiver.starting (mpiolvlLines (state.config mpiolvlOffset))).receive
        (writes.map mpiolvlLines)
    (∃ replies next, card.machine.run program state = (some replies, next)) ∧
      received.latches.map programmedWordPci =
        List.replicate card.numPorts (pci29MhzBits.setWidth 24) ++
          calls.flatMap sentClockWordsPci := by
  intro program writes received
  have machine : card.machine = cardMachine .pci := congrArg cardMachine pci
  rcases @sends_serveCard _ card clockLinesPci programmedWordPci ClockIdlePci
    fsccEnableAsync (fun _ => [pci29MhzBits.setWidth 24]) sentClockWordsPci calls
    (by
      rw [machine]
      intro channel _ middle idle
      exact @sends_serialfcPortNew_pci ⟨card, channel⟩ pci middle fsccEnableAsync
        idle)
    (by
      rw [machine]
      intro call _ middle idle
      exact @sends_program_pci ⟨card, call.1⟩ pci middle idle call.2)
    state ⟨clockLow, strobeLow⟩ with ⟨replies, next, run, sends⟩
  refine ⟨⟨replies, next, run⟩, ?_⟩
  have latched := sends (Receiver.starting (clockLinesPci state)) rfl
  rw [machine] at latched
  rw [receive_mpiolvlWrites _ rfl] at latched
  have defaults : (List.range card.numPorts).flatMap
      (fun _ => [pci29MhzBits.setWidth 24]) =
      List.replicate card.numPorts (pci29MhzBits.setWidth 24) := by
    rw [← List.map_eq_flatMap]
    simp
  simp only [received, writes, program, machine]
  rw [show mpiolvlLines (state.config mpiolvlOffset) = clockLinesPci state from rfl,
    latched, defaults]
  rfl

/-- Two words through different ports of a card of four, with calls around them. -/
theorem clockGenerator_latches_pci_fourPorts :
    let card := Card.ofDevice fc422_4Pci335Id 4
    let first : Fin 20 → BitVec 8 := fun _ => 0x5a
    let second : Fin 20 → BitVec 8 := fun _ => 0xc3
    let calls : List (Nat × Operation) := [(2, .set .rs485 1),
      (1, .setClockBits first true), (0, .set .echoCancel 1),
      (3, .setClockBits second false)]
    let writes := mpiolvlWrites
      (card.machine.trace (serveCard false card calls) .blank)
    let received := (Receiver.starting (mpiolvlLines 0)).receive
      (writes.map mpiolvlLines)
    received.latches.map programmedWordPci =
      List.replicate 4 (pci29MhzBits.setWidth 24) ++ [0x5a5a5a, 0xc3c3c3] := by
  intro card first second calls writes received
  have words : calls.flatMap sentClockWordsPci = [0x5a5a5a, 0xc3c3c3] := by
    simp [calls, sentClockWordsPci, clockWordPci, first, second]
  have latched := @clockGenerator_latches_pci card rfl false calls .blank rfl rfl
  rw [words] at latched
  exact latched.2

end SerialFc
