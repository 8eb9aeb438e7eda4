import SerialFc.Exar.ClockBits
import Mathlib.Tactic.IntervalCases

/-! # Runs of a PCI card

All ports of a PCI card share MPIOLVL: three pins of the clock generator, one
RS485 driver enable for each port from bit 3 upwards, and echo cancel on bit 7
for the whole card. The pins stay apart on boards of up to four ports.
-/

namespace SerialFc

def PciAccepts (value : BitVec 32) : Setting → Prop
  | .rs485 | .echoCancel => True
  | .termination | .isochronous | .externalTransmit | .frameLength => False
  | .txTrigger | .rxTrigger => ¬value > 64
  | .sampleRate => ¬(value ≠ 8 ∧ value ≠ 16)

instance (value : BitVec 32) (setting : Setting) :
    Decidable (PciAccepts value setting) := by
  cases setting <;> unfold PciAccepts <;> infer_instance

def CardState.applyPci (state : CardState) (port : Port) (value : BitVec 32) :
    Setting → CardState
  | .rs485 =>
      (state.setConfig mpiolvlOffset
        (switchBits (decide (value = 0)) (0x8#8 <<< port.channel)
          (state.config mpiolvlOffset))).setPlain port.channel uartExarFctr
            (switchBits (decide (value ≠ 0)) 0x20
              ((state.uart port.channel).plain uartExarFctr))
  | .echoCancel =>
      state.setConfig mpiolvlOffset
        (switchBits (decide (value ≠ 0)) 0x80 (state.config mpiolvlOffset))
  | .termination | .isochronous | .externalTransmit | .frameLength => state
  | .txTrigger =>
      (state.setPlain port.channel uartExarTxtrg (value.setWidth 8)).setField
        port.channel .txTrigger value
  | .rxTrigger =>
      (state.setPlain port.channel uartExarRxtrg (value.setWidth 8)).setField
        port.channel .rxTrigger value
  | .sampleRate =>
      (state.setConfig uartExar8xmode
        (switchBits (decide (value = 8)) (1#8 <<< port.channel)
          (state.config uartExar8xmode))).setField port.channel .sampleRate value

/-- What a getter of a port reports. The trigger levels come from the shadow
fields. -/
def CardState.getPci (state : CardState) (channel : Nat) (before : BitVec 32) :
    Setting → Int × BitVec 32
  | .rs485 =>
      (0, if anySet ((state.uart channel).plain uartExarFctr) 0x20
        then 1 else 0)
  | .echoCancel =>
      (0, if anySet (state.config mpiolvlOffset) 0x80 then 1 else 0)
  | .termination | .isochronous | .externalTransmit | .frameLength =>
      (-eprotonosupport, before)
  | .txTrigger => (0, (state.fields channel).txTrigger)
  | .rxTrigger => (0, (state.fields channel).rxTrigger)
  | .sampleRate => (0, (state.fields channel).sampleRate)

/-! ## One call -/

section Calls

variable {port : Port} (pci : fastcomGetCardType port = .pci)
variable (state : CardState) (value : BitVec 32)
include pci

theorem run_set_pci_of_accepts (setting : Setting)
    (accepted : PciAccepts value setting) :
    (cardMachine .pci).run (setting.set port value) state =
      (some 0, state.applyPci port value setting) := by
  cases setting with
  | rs485 =>
      simp [Setting.set, fastcomSetRs485, pci, run_setRs485Pci,
        CardState.applyPci]
  | echoCancel =>
      simp [Setting.set, fastcomSetEchoCancel, pci, run_setEchoCancelPci,
        CardState.applyPci]
  | termination => cases accepted
  | isochronous => cases accepted
  | externalTransmit => cases accepted
  | frameLength => cases accepted
  | txTrigger =>
      have run := run_setTriggerExar port state
        (show CardType.pci ≠ .fscc by decide) isPlain_txtrg accepted
      simp only [Setting.set, fastcomSetTxTrigger, fastcomSetTxTriggerPci, pci,
        Machine.run_bind, run]
      rfl
  | rxTrigger =>
      have run := run_setTriggerExar port state
        (show CardType.pci ≠ .fscc by decide) isPlain_rxtrg accepted
      simp only [Setting.set, fastcomSetRxTrigger, fastcomSetRxTriggerPci, pci,
        Machine.run_bind, run]
      rfl
  | sampleRate =>
      simp only [Setting.set, fastcomSetSampleRate, pci, Machine.run_bind,
        run_setSampleRatePci port state value accepted]
      rfl

theorem refuses_set_pci (setting : Setting)
    (refused : ¬PciAccepts value setting) :
    Refuses .pci (setting.set port value) state := by
  cases setting with
  | rs485 => exact absurd trivial refused
  | echoCancel => exact absurd trivial refused
  | termination =>
      simp only [Setting.set, fastcomSetTermination, pci]
      exact refuses_eprotonosupport _ state
  | isochronous =>
      simp only [Setting.set, fastcomSetIsochronous, pci]
      exact refuses_eprotonosupport _ state
  | externalTransmit =>
      simp only [Setting.set, fastcomSetExternalTransmit, pci]
      exact refuses_eprotonosupport _ state
  | frameLength =>
      simp only [Setting.set, fastcomSetFrameLength, pci]
      exact refuses_eprotonosupport _ state
  | txTrigger =>
      have outside := not_not.mp refused
      simp only [Setting.set, fastcomSetTxTrigger, pci,
        fastcomSetTxTriggerPci, setTriggerExar, if_pos outside]
      exact refuses_einval _ state
  | rxTrigger =>
      have outside := not_not.mp refused
      simp only [Setting.set, fastcomSetRxTrigger, pci,
        fastcomSetRxTriggerPci, setTriggerExar, if_pos outside]
      exact refuses_einval _ state
  | sampleRate =>
      have outside := not_not.mp refused
      simp only [Setting.set, fastcomSetSampleRate, pci,
        fastcomSetSampleRatePci, if_pos outside]
      exact refuses_einval _ state

theorem run_get_pci (before : BitVec 32) (setting : Setting) :
    (cardMachine .pci).run (setting.get port before) state =
      (some (state.getPci port.channel before setting), state) := by
  cases setting with
  | rs485 =>
      have exar : CardType.pci ≠ .fscc := by decide
      simp only [Setting.get, fastcomGetRs485, pci, Machine.run_bind,
        run_getRs485Pci port state exar]
      rfl
  | echoCancel =>
      simp only [Setting.get, fastcomGetEchoCancel, pci, Machine.run_bind,
        run_getEchoCancelPci]
      rfl
  | termination =>
      simp [Setting.get, fastcomGetTermination, pci, CardState.getPci]
  | isochronous =>
      simp [Setting.get, fastcomGetIsochronous, pci, CardState.getPci]
  | externalTransmit =>
      simp [Setting.get, fastcomGetExternalTransmit, pci, CardState.getPci]
  | frameLength =>
      simp [Setting.get, fastcomGetFrameLength, pci, CardState.getPci]
  | txTrigger =>
      simp [Setting.get, fastcomGetTxTrigger, pci, CardState.getPci,
        PortFields.get]
  | rxTrigger =>
      simp [Setting.get, fastcomGetRxTrigger, pci, CardState.getPci,
        PortFields.get]
  | sampleRate =>
      simp [Setting.get, fastcomGetSampleRate, CardState.getPci, PortFields.get]

theorem run_program_pci (operation : Operation) :
    ∃ reply next, (cardMachine .pci).run (operation.program port) state =
        (some reply, next) ∧
      ((∃ setting value, operation = .set setting value ∧ reply = .status 0 ∧
          PciAccepts value setting ∧
          next = state.applyPci port value setting) ∨
        ((Event.mk port.channel operation reply).writes = none ∧
          next = state)) := by
  cases operation with
  | set setting value =>
      by_cases accepted : PciAccepts value setting
      · refine ⟨.status 0, state.applyPci port value setting, ?_,
          .inl ⟨setting, value, rfl, rfl, accepted, rfl⟩⟩
        simp only [Operation.program, Machine.run_bind,
          run_set_pci_of_accepts pci state value setting accepted]
        rfl
      · rcases refuses_set_pci pci state value setting accepted with
          ⟨status, failed, runSet, _⟩
        refine ⟨.status status, state, ?_,
          .inr ⟨Event.writes_set_of_failed _ _ _ failed, rfl⟩⟩
        simp only [Operation.program, Machine.run_bind, runSet]
        rfl
  | get setting before =>
      let answer := state.getPci port.channel before setting
      refine ⟨.value answer.1 answer.2, state, ?_, .inr ⟨rfl, rfl⟩⟩
      simp only [Operation.program, Machine.run_bind,
        run_get_pci pci state before setting]
      rfl
  | setClockBits clockData allocated =>
      refine ⟨.status 0, state, ?_, .inr ⟨rfl, rfl⟩⟩
      simp only [Operation.program, fastcomSetClockBits, pci, Machine.run_bind,
        run_setClockBitsPci]
      rfl
  | enableAsyncMode =>
      have notFscc : CardType.pci ≠ .fscc := by decide
      refine ⟨.status (-eprotonosupport), state, ?_, .inr ⟨rfl, rfl⟩⟩
      simp only [Operation.program, fsccEnableAsyncMode, pci, if_pos notFscc]
      rfl
  | disableAsyncMode =>
      have notFscc : CardType.pci ≠ .fscc := by decide
      refine ⟨.status (-eprotonosupport), state, ?_, .inr ⟨rfl, rfl⟩⟩
      simp only [Operation.program, fsccDisableAsyncMode, pci, if_pos notFscc]
      rfl
  | setBaudRate value =>
      refine ⟨.status (-eprotonosupport), state, ?_, .inr ⟨rfl, rfl⟩⟩
      simp only [Operation.program, fastcomSetBaudRate, pci]
      rfl
  | getBaudRate before =>
      refine ⟨.rate (-eprotonosupport) before, state, ?_, .inr ⟨rfl, rfl⟩⟩
      simp only [Operation.program, fastcomGetBaudRate, pci]
      rfl

end Calls

/-! ## Pins of MPIOLVL -/

/-- From channel 5 on the driver enable is shifted out of the byte. -/
theorem transmitterMask_eq_zero {channel : Nat} (high : 5 ≤ channel) :
    0x8#8 <<< channel = 0#8 := by
  by_cases inside : channel < 8
  · interval_cases channel <;> decide
  · exact BitVec.shiftLeft_eq_zero (Nat.le_of_not_lt inside)

theorem transmitterMask_clockPins (channel : Nat) :
    (0x8#8 <<< channel) &&& 0x06#8 = 0#8 := by
  by_cases low : channel < 5
  · interval_cases channel <;> decide
  · rw [transmitterMask_eq_zero (Nat.le_of_not_lt low)]
    decide

theorem applyPci_clockPins (state : CardState) (port : Port) (value : BitVec 32)
    (setting : Setting) :
    (state.applyPci port value setting).config mpiolvlOffset &&& 0x06#8 =
      state.config mpiolvlOffset &&& 0x06#8 := by
  cases setting with
  | rs485 =>
      have kept := switchBits_and_of_disjoint (decide (value = 0))
        (transmitterMask_clockPins port.channel) (state.config mpiolvlOffset)
      simpa [CardState.applyPci, CardState.setPlain, CardState.setConfig]
        using kept
  | echoCancel =>
      have kept := switchBits_and_of_disjoint (decide (value ≠ 0))
        (show 0x80#8 &&& 0x06#8 = 0#8 by decide) (state.config mpiolvlOffset)
      simpa [CardState.applyPci, CardState.setConfig] using kept
  | termination | isochronous | externalTransmit | frameLength => rfl
  | txTrigger | rxTrigger => rfl
  | sampleRate =>
      simp [CardState.applyPci, CardState.setConfig, CardState.setField,
        mpiolvlOffset, uartExar8xmode]

/-- The clock generator receives the word, and no operation of the card leaves
the clock or strobe pin other than it was. -/
theorem setClockBitsPci_received {port : Port}
    (pci : fastcomGetCardType port = .pci) (clockData : BitVec 32)
    (state : CardState)
    (clockLow : (state.config mpiolvlOffset).getLsbD 1 = false)
    (strobeLow : (state.config mpiolvlOffset).getLsbD 2 = false) :
    let saved := state.config mpiolvlOffset
    let writes := mpiolvlWrites ((cardMachine .pci).trace
      (fastcomSetClockBitsPci port clockData) state)
    let received := (Receiver.starting (mpiolvlLines saved)).receive
      (writes.map mpiolvlLines)
    received.samples = clockWordBitsPci clockData ∧
      received.latches = [clockWordBitsPci clockData] ∧
      (clockWordBitsPci clockData).length = 24 ∧
      List.IsChain StableOnRise ((saved :: writes).map mpiolvlLines) ∧
      writes.getLast? = some saved ∧
      ∀ operation : Operation, ∃ reply next,
        (cardMachine .pci).run (operation.program port) state =
            (some reply, next) ∧
          next.config mpiolvlOffset &&& 0x06#8 = saved &&& 0x06#8 := by
  intro saved writes received
  rcases setClockBitsPci_stream port clockData state clockLow strobeLow with
    ⟨samples, latches, stable, last⟩
  refine ⟨samples, latches, length_clockWordBitsPci clockData, stable, last, ?_⟩
  intro operation
  rcases run_program_pci pci state operation with ⟨reply, next, run, outcome⟩
  refine ⟨reply, next, run, ?_⟩
  rcases outcome with ⟨setting, value, _, _, _, rfl⟩ | ⟨_, rfl⟩
  · exact applyPci_clockPins state port value setting
  · rfl

/-- The word a card starts with, on a card with all transmitters disabled. -/
theorem setClockBitsPci_received_29MHz :
    let port : Port := ⟨Card.ofDevice fc422_4Pci335Id 4, 2⟩
    let state := CardState.blank.setConfig mpiolvlOffset 0x78
    let writes := mpiolvlWrites ((cardMachine .pci).trace
      (fastcomSetClockBitsPci port pci29MhzBits) state)
    ((Receiver.starting (mpiolvlLines 0x78)).receive
        (writes.map mpiolvlLines)).latches = [clockWordBitsPci pci29MhzBits] ∧
      writes.getLast? = some 0x78 := by
  intro port state writes
  have type : fastcomGetCardType port = .pci := rfl
  have received := setClockBitsPci_received type pci29MhzBits state
    (by simp [state, CardState.setConfig])
    (by simp [state, CardState.setConfig])
  exact ⟨received.2.1, received.2.2.2.2.1⟩

end SerialFc
