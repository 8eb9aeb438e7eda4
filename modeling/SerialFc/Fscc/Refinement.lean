import SerialFc.Fscc.View
import Mathlib.Tactic.ByContra
import Mathlib.Tactic.IntervalCases

/-! # The driver's operations on an FSCC card refine the views

Every setter either leaves the card alone with a nonzero status or changes the
view of its own port, and no other, as `FsccView.set` says; every getter
answers with `FsccView.get` and changes nothing but an index register.
-/

namespace SerialFc

/-! ## Bits of FCR belong to one channel and one setting -/

theorem rs485BitMask_ne_zero {channel : Nat} (small : channel < 2) :
    rs485BitMask channel ≠ 0#32 := by
  interval_cases channel <;> decide

theorem echoCancelBitMask_ne_zero {channel : Nat} (small : channel < 2) :
    echoCancelBitMask channel ≠ 0#32 := by
  interval_cases channel <;> decide

theorem rs485BitMask_disjoint {left right : Nat} (different : left ≠ right) :
    rs485BitMask left &&& rs485BitMask right = 0#32 := by
  rcases left with _ | _ | left <;> rcases right with _ | _ | right <;>
    simp [rs485BitMask] at different ⊢

theorem echoCancelBitMask_disjoint {left right : Nat}
    (different : left ≠ right) :
    echoCancelBitMask left &&& echoCancelBitMask right = 0#32 := by
  rcases left with _ | _ | left <;> rcases right with _ | _ | right <;>
    simp [echoCancelBitMask] at different ⊢

theorem rs485BitMask_echoCancelBitMask (left right : Nat) :
    rs485BitMask left &&& echoCancelBitMask right = 0#32 := by
  rcases left with _ | _ | left <;> rcases right with _ | _ | right <;>
    simp [rs485BitMask, echoCancelBitMask]

theorem echoCancelBitMask_rs485BitMask (left right : Nat) :
    echoCancelBitMask left &&& rs485BitMask right = 0#32 := by
  rw [BitVec.and_comm]
  exact rs485BitMask_echoCancelBitMask right left

theorem asyncMask_disjoint {channel : Nat} (small : channel < 2) (other : Nat) :
    (0x01000000#32 <<< channel) &&& rs485BitMask other = 0#32 ∧
      (0x01000000#32 <<< channel) &&& echoCancelBitMask other = 0#32 := by
  interval_cases channel <;> rcases other with _ | _ | other <;>
    simp [rs485BitMask, echoCancelBitMask]

/-! ## The card after an accepted set -/

def CardState.applyFscc (state : CardState) (port : Port) (value : BitVec 32) :
    Setting → CardState
  | .rs485 =>
      let acr := switchBits (decide (value ≠ 0)) 0x10
        (state.fields port.channel).acr
      { (state.setIndexed port.channel acrOffset
          (Function.update (state.uart port.channel).indexed acrOffset acr)).setAcr
            port.channel acr with
          fcr := switchBits (decide (value ≠ 0)) (rs485BitMask port.channel)
            state.fcr }
  | .echoCancel =>
      { state with
        fcr := switchBits (decide (value ≠ 0)) (echoCancelBitMask port.channel)
          state.fcr }
  | .termination => state
  | .isochronous =>
      state.setIndexed port.channel cksOffset
        (Function.update
          (Function.update (state.uart port.channel).indexed mdmOffset
            (isochronousMdm value))
          cksOffset (isochronousCks value))
  | .externalTransmit =>
      state.setIndexed port.channel extOffset
        (Function.update
          (Function.update (state.uart port.channel).indexed exthOffset
            (externalTransmitExth value))
          extOffset (value.setWidth 8))
  | .frameLength =>
      state.setIndexed port.channel flrOffset
        (Function.update (state.uart port.channel).indexed flrOffset
          ((value - 1).setWidth 8))
  | .txTrigger =>
      (state.setIndexed port.channel ttlOffset
        (Function.update (state.uart port.channel).indexed ttlOffset
          (value.setWidth 8))).setField port.channel .txTrigger value
  | .rxTrigger =>
      (state.setIndexed port.channel rtlOffset
        (Function.update (state.uart port.channel).indexed rtlOffset
          (value.setWidth 8))).setField port.channel .rxTrigger value
  | .sampleRate =>
      (state.setIndexed port.channel tcrOffset
        (Function.update (state.uart port.channel).indexed tcrOffset
          (value.setWidth 8))).setField port.channel .sampleRate value

section Refinement

variable {port : Port} (fscc : fastcomGetCardType port = .fscc)
variable (state : CardState) (value : BitVec 32)
include fscc

theorem run_set_of_accepts (setting : Setting)
    (accepted : (state.fsccView port.channel).Accepts value setting) :
    (cardMachine .fscc).run (setting.set port value) state =
      (some 0, state.applyFscc port value setting) := by
  cases setting with
  | rs485 =>
      simp [Setting.set, fastcomSetRs485, fscc, run_setRs485Fscc,
        CardState.applyFscc]
  | echoCancel =>
      simp [Setting.set, fastcomSetEchoCancel, fscc, run_setEchoCancelFscc,
        CardState.applyFscc]
  | termination => cases accepted
  | isochronous =>
      simp [Setting.set, fastcomSetIsochronous, fscc,
        run_setIsochronousFscc port state value accepted, CardState.applyFscc]
  | externalTransmit =>
      simp [Setting.set, fastcomSetExternalTransmit, fscc,
        run_setExternalTransmitFscc port state value accepted,
        CardState.applyFscc]
  | frameLength =>
      simp [Setting.set, fastcomSetFrameLength, fscc,
        run_setFrameLengthFscc port state value accepted.1 accepted.2,
        CardState.applyFscc]
  | txTrigger =>
      simp [Setting.set, fastcomSetTxTrigger, fastcomSetTxTriggerFscc, fscc,
        Machine.run_bind, run_setTriggerFscc port state _ value accepted,
        CardState.applyFscc]
  | rxTrigger =>
      simp [Setting.set, fastcomSetRxTrigger, fastcomSetRxTriggerFscc, fscc,
        Machine.run_bind, run_setTriggerFscc port state _ value accepted,
        CardState.applyFscc]
  | sampleRate =>
      simp [Setting.set, fastcomSetSampleRate, fscc, Machine.run_bind,
        run_setSampleRateFscc port state value accepted, CardState.applyFscc]

theorem refuses_set_fscc (setting : Setting)
    (refused : ¬(state.fsccView port.channel).Accepts value setting) :
    Refuses .fscc (setting.set port value) state := by
  cases setting with
  | rs485 => exact absurd trivial refused
  | echoCancel => exact absurd trivial refused
  | termination =>
      simp only [Setting.set, fastcomSetTermination, fscc]
      exact refuses_eprotonosupport _ state
  | isochronous =>
      have outside := not_not.mp refused
      simp only [Setting.set, fastcomSetIsochronous, fscc,
        fastcomSetIsochronousFscc, if_pos outside]
      exact refuses_einval _ state
  | externalTransmit =>
      have outside := not_not.mp refused
      simp only [Setting.set, fastcomSetExternalTransmit, fscc,
        fastcomSetExternalTransmitFscc, if_pos outside]
      exact refuses_einval _ state
  | frameLength =>
      by_cases outside : value = 0 ∨ value > 256
      · simp only [Setting.set, fastcomSetFrameLength, fscc,
          fastcomSetFrameLengthFscc, if_pos outside]
        exact refuses_einval _ state
      · have old : state.firmwareRevision port.channel < 0x20 := by
          by_contra recent
          exact refused ⟨outside, recent⟩
        simp only [Setting.set, fastcomSetFrameLength, fscc,
          fastcomSetFrameLengthFscc, if_neg outside]
        -- The revision is read before the call is refused.
        refine ⟨-eprotonosupport, by decide, ?_, ?_⟩
        · simp only [Machine.run_bind, run_fsccGetFrev, if_pos old]
          rfl
        · simp only [Machine.trace_bind, run_fsccGetFrev, if_pos old]
          intro access member
          obtain rfl : access = .ioread32 .bar0 (vstrAddress port.channel) := by
            simpa [fsccGetFrev, Machine.trace] using member
          rfl
  | txTrigger =>
      have outside := not_not.mp refused
      simp only [Setting.set, fastcomSetTxTrigger, fscc,
        fastcomSetTxTriggerFscc, setTriggerFscc, if_pos outside]
      exact refuses_einval _ state
  | rxTrigger =>
      have outside := not_not.mp refused
      simp only [Setting.set, fastcomSetRxTrigger, fscc,
        fastcomSetRxTriggerFscc, setTriggerFscc, if_pos outside]
      exact refuses_einval _ state
  | sampleRate =>
      have outside := not_not.mp refused
      simp only [Setting.set, fastcomSetSampleRate, fscc,
        fastcomSetSampleRateFscc, if_pos outside]
      exact refuses_einval _ state

/-- A getter answers from the view. Reading an indexed register leaves the
shadow in the hardware ACR. -/
theorem run_get_fscc (before : BitVec 32) (setting : Setting) :
    ∃ next,
      (cardMachine .fscc).run (setting.get port before) state =
        (some ((state.fsccView port.channel).get before setting), next) ∧
      (next = state ∨
        ((state.fsccView port.channel).get before setting).1 = 0 ∧
          next = state.setIndexed port.channel acrOffset
            (Function.update (state.uart port.channel).indexed acrOffset
              (state.fields port.channel).acr)) := by
  cases setting with
  | rs485 =>
      refine ⟨state, ?_, .inl rfl⟩
      simp [Setting.get, fastcomGetRs485, fscc, run_getRs485Fscc,
        FsccView.get, CardState.fsccView, anySet]
  | echoCancel =>
      refine ⟨state, ?_, .inl rfl⟩
      simp [Setting.get, fastcomGetEchoCancel, fscc, run_getEchoCancelFscc,
        FsccView.get, CardState.fsccView, anySet]
  | termination =>
      refine ⟨state, ?_, .inl rfl⟩
      simp [Setting.get, fastcomGetTermination, fscc, FsccView.get]
  | isochronous =>
      refine ⟨_, ?_, .inr ⟨rfl, rfl⟩⟩
      simp [Setting.get, fastcomGetIsochronous, fscc,
        run_getIsochronousFscc, FsccView.get, CardState.fsccView]
  | externalTransmit =>
      refine ⟨_, ?_, .inr ⟨rfl, rfl⟩⟩
      simp [Setting.get, fastcomGetExternalTransmit, fscc,
        run_getExternalTransmitFscc, FsccView.get, CardState.fsccView]
  | frameLength =>
      by_cases old : state.firmwareRevision port.channel < 0x20
      · refine ⟨state, ?_, .inl rfl⟩
        have answer : (state.fsccView port.channel).get before .frameLength =
            (-eprotonosupport, before) := if_pos old
        rw [answer]
        simp only [Setting.get, fastcomGetFrameLength, fscc,
          fastcomGetFrameLengthFscc, Machine.run_bind, run_fsccGetFrev,
          if_pos old]
        rfl
      · refine ⟨_, ?_, .inr ⟨congrArg Prod.fst (if_neg old), rfl⟩⟩
        have answer : (state.fsccView port.channel).get before .frameLength =
            (0, ((state.uart port.channel).indexed flrOffset).setWidth 32 + 1) :=
          if_neg old
        rw [answer]
        simp only [Setting.get, fastcomGetFrameLength, fscc,
          run_getFrameLengthFscc port state before old]
  | txTrigger =>
      refine ⟨_, ?_, .inr ⟨rfl, rfl⟩⟩
      simp [Setting.get, fastcomGetTxTrigger, fastcomGetTxTriggerFscc, fscc,
        run_getTriggerFscc, FsccView.get, CardState.fsccView]
  | rxTrigger =>
      refine ⟨_, ?_, .inr ⟨rfl, rfl⟩⟩
      simp [Setting.get, fastcomGetRxTrigger, fastcomGetRxTriggerFscc, fscc,
        run_getTriggerFscc, FsccView.get, CardState.fsccView]
  | sampleRate =>
      refine ⟨state, ?_, .inl rfl⟩
      simp [Setting.get, fastcomGetSampleRate, FsccView.get,
        CardState.fsccView, PortFields.get]

end Refinement

/-! ## Views of the changed card -/

section Views

variable (state : CardState) (port : Port)

theorem fsccView_applyFscc_self (small : port.channel < 2) (value : BitVec 32)
    (setting : Setting) :
    (state.applyFscc port value setting).fsccView port.channel =
      (state.fsccView port.channel).set value setting := by
  cases setting with
  | rs485 =>
      have switched := anySet_switchBits (decide (value ≠ 0))
        (rs485BitMask_ne_zero small) state.fcr
      have kept := anySet_switchBits_of_disjoint (decide (value ≠ 0))
        (rs485BitMask_echoCancelBitMask port.channel port.channel) state.fcr
      simp only [CardState.applyFscc, CardState.fsccView, FsccView.set,
        switched, kept]
      simp [CardState.setIndexed, CardState.setAcr, CardState.firmwareRevision]
  | echoCancel =>
      have switched := anySet_switchBits (decide (value ≠ 0))
        (echoCancelBitMask_ne_zero small) state.fcr
      have kept := anySet_switchBits_of_disjoint (decide (value ≠ 0))
        (echoCancelBitMask_rs485BitMask port.channel port.channel) state.fcr
      simp only [CardState.applyFscc, CardState.fsccView, FsccView.set,
        switched, kept]
      rfl
  | termination => rfl
  | isochronous | externalTransmit | frameLength =>
      simp [CardState.applyFscc, CardState.fsccView, FsccView.set,
        CardState.setIndexed, CardState.firmwareRevision]
  | txTrigger | rxTrigger | sampleRate =>
      simp [CardState.applyFscc, CardState.fsccView, FsccView.set,
        CardState.setIndexed, CardState.setField, PortFields.set,
        CardState.firmwareRevision]

theorem fsccView_applyFscc_of_ne {other : Nat}
    (different : other ≠ port.channel) (value : BitVec 32)
    (setting : Setting) :
    (state.applyFscc port value setting).fsccView other =
      state.fsccView other := by
  cases setting with
  | rs485 =>
      have keptRs485 := anySet_switchBits_of_disjoint (decide (value ≠ 0))
        (rs485BitMask_disjoint different.symm) state.fcr
      have keptEcho := anySet_switchBits_of_disjoint (decide (value ≠ 0))
        (rs485BitMask_echoCancelBitMask port.channel other) state.fcr
      simp only [CardState.applyFscc, CardState.fsccView, keptRs485, keptEcho]
      simp [CardState.setIndexed, CardState.setAcr, different,
        CardState.firmwareRevision]
  | echoCancel =>
      have keptEcho := anySet_switchBits_of_disjoint (decide (value ≠ 0))
        (echoCancelBitMask_disjoint different.symm) state.fcr
      have keptRs485 := anySet_switchBits_of_disjoint (decide (value ≠ 0))
        (echoCancelBitMask_rs485BitMask port.channel other) state.fcr
      simp only [CardState.applyFscc, CardState.fsccView, keptRs485, keptEcho]
      rfl
  | termination => rfl
  | isochronous | externalTransmit | frameLength =>
      simp [CardState.applyFscc, CardState.fsccView, CardState.setIndexed,
        different, CardState.firmwareRevision]
  | txTrigger | rxTrigger | sampleRate =>
      simp [CardState.applyFscc, CardState.fsccView, CardState.setIndexed,
        CardState.setField, different, CardState.firmwareRevision]

/-- Writing the ACR shadow to a hardware ACR that already holds it changes the
index register and nothing else. -/
theorem setIndexed_acr_of_synced (synced : (state.fsccView port.channel).AcrSynced) :
    state.setIndexed port.channel acrOffset
        (Function.update (state.uart port.channel).indexed acrOffset
          (state.fields port.channel).acr) =
      state.setIndexed port.channel acrOffset
        (state.uart port.channel).indexed := by
  rw [Function.update_eq_self_iff.mpr synced.hardware.symm]

theorem fsccView_setIndex (channel other : Nat) (index : BitVec 8) :
    (state.setIndexed channel index (state.uart channel).indexed).fsccView other =
      state.fsccView other := by
  by_cases same : other = channel
  · subst same
    simp [CardState.fsccView, CardState.setIndexed, CardState.firmwareRevision]
  · simp [CardState.fsccView, CardState.setIndexed, CardState.firmwareRevision,
      same]

theorem fsccView_switchAsync {channel : Nat} (small : channel < 2) (on : Bool)
    (other : Nat) :
    { state with
        fcr := switchBits on (0x01000000#32 <<< channel) state.fcr }.fsccView
          other = state.fsccView other := by
  have masks := asyncMask_disjoint small other
  have keptRs485 := anySet_switchBits_of_disjoint on masks.1 state.fcr
  have keptEcho := anySet_switchBits_of_disjoint on masks.2 state.fcr
  simp only [CardState.fsccView, keptRs485, keptEcho]
  rfl

end Views

end SerialFc
