import SerialFc.Fscc.ClockBits
import SerialFc.Fscc.Refinement

/-! # Indexed accesses happen outside the 0xbf window

While LCR is 0xbf the offsets of SPR and ICR mean other registers. Every
operation of an FSCC port clears LCR before it touches the indexed registers.
-/

namespace SerialFc

/-- An access through the index register is made while LCR is not 0xbf. -/
def InWindow (step : CardState × Access) : Prop :=
  ∀ channel, step.2.indexedChannel = some channel →
    (step.1.uart channel).lcr ≠ 0xbf#8

@[simp] theorem lcrOffset_ne_sprOffset : lcrOffset ≠ sprOffset := by decide

@[simp] theorem lcrOffset_ne_icrOffset : lcrOffset ≠ icrOffset := by decide

section Calls

variable (port : Port) (state : CardState)

theorem inWindow_setTriggerFscc (index : BitVec 8) (value : BitVec 32) :
    ∀ step ∈ (cardMachine .fscc).steps (setTriggerFscc index port value) state,
      InWindow step := by
  rw [setTriggerFscc]
  split
  · simp
  · simp [Machine.steps_bind, InWindow, Access.indexedChannel]

theorem inWindow_getTriggerFscc (index : BitVec 8) :
    ∀ step ∈ (cardMachine .fscc).steps (getTriggerFscc index port) state,
      InWindow step := by
  simp [getTriggerFscc, Machine.steps_bind, InWindow, Access.indexedChannel]

theorem inWindow_storeIfSet {program : Driver Int} (field : PortField)
    (value : BitVec 32)
    (sets : ∀ step ∈ (cardMachine .fscc).steps program state, InWindow step) :
    ∀ step ∈ (cardMachine .fscc).steps (do
        let status ← program
        if status = 0 then
          store port field value
        pure status) state,
      InWindow step := by
  apply Machine.forall_steps_bind _ sets
  intro status next _
  by_cases accepted : status = 0
  · simp [accepted, InWindow, Access.indexedChannel]
  · simp [accepted]

theorem inWindow_set (fscc : fastcomGetCardType port = .fscc)
    (value : BitVec 32) (setting : Setting) :
    ∀ step ∈ (cardMachine .fscc).steps (setting.set port value) state,
      InWindow step := by
  cases setting with
  | rs485 =>
      simp [Setting.set, fastcomSetRs485, fscc, fastcomSetRs485Fscc,
        Machine.steps_bind, InWindow, Access.indexedChannel, CardState.setAcr]
  | echoCancel =>
      simp [Setting.set, fastcomSetEchoCancel, fscc, fastcomSetEchoCancelFscc,
        Machine.steps_bind, InWindow, Access.indexedChannel]
  | termination => simp [Setting.set, fastcomSetTermination, fscc]
  | isochronous =>
      simp only [Setting.set, fastcomSetIsochronous, fscc,
        fastcomSetIsochronousFscc]
      split
      · simp
      · simp [Machine.steps_bind, InWindow, Access.indexedChannel]
  | externalTransmit =>
      simp only [Setting.set, fastcomSetExternalTransmit, fscc,
        fastcomSetExternalTransmitFscc]
      split
      · simp
      · by_cases zero : value = 0#32
        · simp [Machine.steps_bind, InWindow, Access.indexedChannel, zero]
        · simp [Machine.steps_bind, InWindow, Access.indexedChannel, zero]
  | frameLength =>
      simp only [Setting.set, fastcomSetFrameLength, fscc,
        fastcomSetFrameLengthFscc]
      split
      · simp
      · apply Machine.forall_steps_bind
        · simp [fsccGetFrev, InWindow, Access.indexedChannel]
        · intro frev next _
          split
          · simp
          · simp [Machine.steps_bind, InWindow, Access.indexedChannel]
  | txTrigger =>
      simp only [Setting.set, fastcomSetTxTrigger, fscc]
      apply inWindow_storeIfSet
      exact inWindow_setTriggerFscc port state _ value
  | rxTrigger =>
      simp only [Setting.set, fastcomSetRxTrigger, fscc]
      apply inWindow_storeIfSet
      exact inWindow_setTriggerFscc port state _ value
  | sampleRate =>
      simp only [Setting.set, fastcomSetSampleRate, fscc]
      apply inWindow_storeIfSet
      rw [fastcomSetSampleRateFscc]
      split
      · simp
      · simp [Machine.steps_bind, InWindow, Access.indexedChannel]

theorem inWindow_get (fscc : fastcomGetCardType port = .fscc)
    (before : BitVec 32) (setting : Setting) :
    ∀ step ∈ (cardMachine .fscc).steps (setting.get port before) state,
      InWindow step := by
  cases setting with
  | rs485 =>
      simp [Setting.get, fastcomGetRs485, fscc, fastcomGetRs485Fscc,
        Machine.steps_bind, InWindow, Access.indexedChannel]
  | echoCancel =>
      simp [Setting.get, fastcomGetEchoCancel, fscc, fastcomGetEchoCancelFscc,
        InWindow, Access.indexedChannel]
  | termination => simp [Setting.get, fastcomGetTermination, fscc]
  | isochronous =>
      simp [Setting.get, fastcomGetIsochronous, fscc, fastcomGetIsochronousFscc,
        Machine.steps_bind, InWindow, Access.indexedChannel]
  | externalTransmit =>
      simp [Setting.get, fastcomGetExternalTransmit, fscc,
        fastcomGetExternalTransmitFscc, Machine.steps_bind,
        InWindow, Access.indexedChannel]
  | frameLength =>
      simp only [Setting.get, fastcomGetFrameLength, fscc,
        fastcomGetFrameLengthFscc]
      apply Machine.forall_steps_bind
      · simp [fsccGetFrev, InWindow, Access.indexedChannel]
      · intro frev next _
        split
        · simp
        · simp [Machine.steps_bind, InWindow, Access.indexedChannel]
  | txTrigger =>
      simpa [Setting.get, fastcomGetTxTrigger, fscc, fastcomGetTxTriggerFscc]
        using inWindow_getTriggerFscc port state ttlOffset
  | rxTrigger =>
      simpa [Setting.get, fastcomGetRxTrigger, fscc, fastcomGetRxTriggerFscc]
        using inWindow_getTriggerFscc port state rtlOffset
  | sampleRate =>
      simp [Setting.get, fastcomGetSampleRate, InWindow, Access.indexedChannel]

theorem inWindow_program (fscc : fastcomGetCardType port = .fscc)
    (operation : Operation) :
    ∀ step ∈ (cardMachine .fscc).steps (operation.program port) state,
      InWindow step := by
  cases operation with
  | set setting value =>
      simpa [Operation.program] using inWindow_set port state fscc value setting
  | get setting before =>
      simpa [Operation.program] using inWindow_get port state fscc before setting
  | setClockBits clockData allocated =>
      have noneIndexed : (fastcomSetClockBitsFscc port clockData
          allocated).Performs fun access => access.indexedChannel = none := by
        apply setClockBitsFscc_performs
        · rfl
        · rfl
        · exact fun _ => rfl
      intro step member channel indexed
      simp only [Operation.program, fastcomSetClockBits, fscc,
        bind_pure_comp, Machine.steps_map] at member
      have quiet := Machine.performs_steps _ noneIndexed state step member
      rw [quiet] at indexed
      cases indexed
  | enableAsyncMode =>
      by_cases off : state.fcr &&& (0x01000000#32 <<< port.channel) = 0#32
      · simp [Operation.program, fsccEnableAsyncMode, fscc, Machine.steps_bind,
          InWindow, Access.indexedChannel, off]
      · simp [Operation.program, fsccEnableAsyncMode, fscc, Machine.steps_bind,
          InWindow, Access.indexedChannel, off]
  | disableAsyncMode =>
      simp [Operation.program, fsccDisableAsyncMode, fscc, Machine.steps_bind,
        InWindow, Access.indexedChannel]
  | setBaudRate value =>
      simp [Operation.program, fastcomSetBaudRate, fscc]
  | getBaudRate before =>
      simp [Operation.program, fastcomGetBaudRate, fscc]

end Calls

end SerialFc
