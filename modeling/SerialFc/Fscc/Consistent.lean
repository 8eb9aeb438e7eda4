import SerialFc.Fscc.Runs

/-! # Registers and shadows of an FSCC port

What the registers of a port hold is fixed by its settings in every reachable
state. Setting a port to what its getter reports is then no change, with one
exception: external transmit has no default, so its registers may never have
been set.
-/

namespace SerialFc

namespace FsccView

structure Consistent (view : FsccView) : Prop where
  synced : view.AcrSynced
  transmitter : view.rs485Bit = anySet view.fields.acr 0x10
  txTrigger : view.indexed ttlOffset = view.fields.txTrigger.setWidth 8 ∧
    ¬view.fields.txTrigger > 127
  rxTrigger : view.indexed rtlOffset = view.fields.rxTrigger.setWidth 8 ∧
    ¬view.fields.rxTrigger > 127
  sampleRate : view.indexed tcrOffset = view.fields.sampleRate.setWidth 8 ∧
    ¬(view.fields.sampleRate < 4 ∨ view.fields.sampleRate > 16)
  isochronous : ∃ mode : BitVec 32, ¬(mode.toInt > 10 ∨ mode.toInt < -1) ∧
    view.indexed mdmOffset = isochronousMdm mode ∧
    view.indexed cksOffset = isochronousCks mode

theorem Consistent.set {view : FsccView} (consistent : view.Consistent)
    {value : BitVec 32} {setting : Setting}
    (accepted : view.Accepts value setting) :
    (view.set value setting).Consistent := by
  have synced := consistent.synced.set value setting
  cases setting with
  | rs485 =>
      have switched := anySet_switchBits (decide (value ≠ 0))
        (show (0x10 : BitVec 8) ≠ 0#8 by decide) view.fields.acr
      exact ⟨synced, switched.symm, consistent.txTrigger, consistent.rxTrigger,
        consistent.sampleRate, consistent.isochronous⟩
  | echoCancel =>
      exact ⟨synced, consistent.transmitter, consistent.txTrigger,
        consistent.rxTrigger, consistent.sampleRate, consistent.isochronous⟩
  | termination => cases accepted
  | isochronous =>
      exact ⟨synced, consistent.transmitter, consistent.txTrigger,
        consistent.rxTrigger, consistent.sampleRate, value, accepted, rfl, rfl⟩
  | externalTransmit =>
      exact ⟨synced, consistent.transmitter, consistent.txTrigger,
        consistent.rxTrigger, consistent.sampleRate, consistent.isochronous⟩
  | frameLength =>
      exact ⟨synced, consistent.transmitter, consistent.txTrigger,
        consistent.rxTrigger, consistent.sampleRate, consistent.isochronous⟩
  | txTrigger =>
      exact ⟨synced, consistent.transmitter, ⟨rfl, accepted⟩,
        consistent.rxTrigger, consistent.sampleRate, consistent.isochronous⟩
  | rxTrigger =>
      exact ⟨synced, consistent.transmitter, consistent.txTrigger,
        ⟨rfl, accepted⟩, consistent.sampleRate, consistent.isochronous⟩
  | sampleRate =>
      exact ⟨synced, consistent.transmitter, consistent.txTrigger,
        consistent.rxTrigger, ⟨rfl, accepted⟩, consistent.isochronous⟩

/-- Frame length is the one default that the firmware may refuse. -/
theorem initialised_consistent (view : FsccView) :
    view.initialised.Consistent := by
  have defaults : defaultSettings =
      defaultSettings.take 7 ++ defaultSettings.drop 7 := rfl
  rw [initialised, defaults, SettingsModel.settleAll_append]
  apply SettingsModel.settleAll_keeps
    (fun _ _ _ accepted consistent => consistent.set accepted)
  have acr : switchBits false 0x10#8 0#8 = 0#8 := by decide
  refine ⟨⟨?_, ?_⟩, ?_, ⟨?_, ?_⟩, ⟨?_, ?_⟩, ⟨?_, ?_⟩, -1, by decide, ?_, ?_⟩ <;>
    simp [defaultSettings, SettingsModel.settleAll, SettingsModel.settle, model,
      Accepts, FsccView.set, defaultRs485, defaultSampleRate,
      defaultTxTriggerLevel, defaultRxTriggerLevel, defaultTermination,
      defaultEchoCancel, defaultIsochronous, ttlOffset, rtlOffset, tcrOffset,
      mdmOffset, cksOffset, acrOffset, acr, anySet]

/-! ## Setting what is set -/

variable {view : FsccView} {value : BitVec 32}

theorem get_of_set_eq_self {setting : Setting}
    (accepted : view.Accepts value setting)
    (unchanged : view.set value setting = view) (before : BitVec 32) :
    view.get before setting = (0, setting.denote value) := by
  have answer := view.get_set_same value before setting accepted
  rw [unchanged] at answer
  exact answer

/-- Setting a port to what it reports changes nothing. The enable bit of
external transmit is not part of the report. -/
theorem set_eq_self_of_get (consistent : view.Consistent) {setting : Setting}
    (accepted : view.Accepts value setting) {before : BitVec 32}
    (reported : view.get before setting = (0, setting.denote value))
    (enabled : setting = .externalTransmit →
      view.indexed exthOffset = externalTransmitExth value) :
    view.set value setting = view := by
  have answer := (Prod.mk.inj reported).2
  cases setting with
  | rs485 =>
      simp only [consistent.transmitter, Bool.and_self, Setting.denote] at answer
      have isOn := Setting.switch_of_report answer
      have acr : switchBits (decide (value ≠ 0)) 0x10#8 view.fields.acr =
          view.fields.acr :=
        switchBits_shiftedOne_of_anySet (show
          anySet view.fields.acr (1#8 <<< 4) = decide (value ≠ 0) from isOn)
      have hardware := consistent.synced.hardware
      have transmitter := consistent.transmitter.trans isOn
      simp only [FsccView.set]
      rw [show switchBits (decide (value ≠ 0)) 0x10 view.fields.acr =
        view.fields.acr from acr, ← hardware, Function.update_eq_self,
        hardware, ← transmitter]
  | echoCancel =>
      have isOn := Setting.switch_of_report answer
      simp only [FsccView.set, ← isOn]
  | termination => rfl
  | isochronous =>
      rcases consistent.isochronous with ⟨mode, inRange, mdm, cks⟩
      rw [cks, isochronousMode_isochronousCks inRange] at answer
      obtain rfl : mode = value := answer
      simp only [FsccView.set]
      rw [← mdm, Function.update_eq_self, ← cks, Function.update_eq_self]
  | externalTransmit =>
      have low : value.setWidth 8 = view.indexed extOffset := by
        simp only [Setting.denote] at answer
        bv_omega
      simp only [FsccView.set]
      rw [← enabled rfl, Function.update_eq_self, low, Function.update_eq_self]
  | frameLength =>
      simp only [if_neg accepted.2, Setting.denote] at answer
      have stored : (value - 1).setWidth 8 = view.indexed flrOffset := by
        bv_omega
      simp only [FsccView.set]
      rw [stored, Function.update_eq_self]
  | txTrigger =>
      rcases consistent.txTrigger with ⟨register, inRange⟩
      rw [register, trigger_decode inRange] at answer
      obtain rfl : view.fields.txTrigger = value := answer
      simp only [FsccView.set]
      rw [← register, Function.update_eq_self]
  | rxTrigger =>
      rcases consistent.rxTrigger with ⟨register, inRange⟩
      rw [register, trigger_decode inRange] at answer
      obtain rfl : view.fields.rxTrigger = value := answer
      simp only [FsccView.set]
      rw [← register, Function.update_eq_self]
  | sampleRate =>
      obtain rfl : view.fields.sampleRate = value := answer
      simp only [FsccView.set]
      rw [← consistent.sampleRate.1, Function.update_eq_self]

theorem Consistent.get_triggers (consistent : view.Consistent)
    (before : BitVec 32) :
    view.get before .txTrigger = (0, view.fields.txTrigger) ∧
      view.get before .rxTrigger = (0, view.fields.rxTrigger) := by
  simp only [FsccView.get, consistent.txTrigger.1, consistent.rxTrigger.1,
    trigger_decode consistent.txTrigger.2, trigger_decode consistent.rxTrigger.2,
    and_self]

theorem set_eq_self_iff (consistent : view.Consistent) {setting : Setting}
    (accepted : view.Accepts value setting) (before : BitVec 32) :
    view.set value setting = view ↔
      view.get before setting = (0, setting.denote value) ∧
        (setting = .externalTransmit →
          view.indexed exthOffset = externalTransmitExth value) := by
  constructor
  · intro unchanged
    refine ⟨get_of_set_eq_self accepted unchanged before, ?_⟩
    rintro rfl
    rw [← unchanged]
    simp [FsccView.set, exthOffset, extOffset]
  · rintro ⟨reported, enabled⟩
    exact set_eq_self_of_get consistent accepted reported enabled

end FsccView

/-! ## The card under its views -/

theorem SameButIndex.fsccView {before after : CardState}
    (same : SameButIndex before after) (channel : Nat) :
    after.fsccView channel = before.fsccView channel := by
  simp only [CardState.fsccView, CardState.firmwareRevision, same.lcr,
    same.indexed, same.fcr, same.bar0, same.fields]

section Card

variable {state : CardState} {channel : Nat}

theorem setIndexed_same {indexed : BitVec 8 → BitVec 8}
    (same : indexed = (state.uart channel).indexed) (index : BitVec 8) :
    SameButIndex state (state.setIndexed channel index indexed) := by
  refine ⟨?_, rfl, rfl, rfl, rfl⟩
  intro other
  by_cases own : other = channel
  · subst own
    simp [CardState.setIndexed, same]
  · simp [CardState.setIndexed, own]

theorem switchFcr_same {on : Bool} {mask : BitVec 32} {bit : Nat}
    (oneBit : mask = 1#32 <<< bit) (same : on = anySet state.fcr mask) :
    SameButIndex state { state with fcr := switchBits on mask state.fcr } := by
  have unchanged : switchBits on mask state.fcr = state.fcr := by
    subst oneBit
    exact switchBits_shiftedOne_of_anySet same.symm
  exact ⟨fun _ => rfl, rfl, unchanged, rfl, rfl⟩

end Card

theorem rs485BitMask_eq {channel : Nat} (small : channel < 2) :
    rs485BitMask channel = 1#32 <<< (18 + 4 * channel) := by
  interval_cases channel <;> rfl

theorem echoCancelBitMask_eq {channel : Nat} (small : channel < 2) :
    echoCancelBitMask channel = 1#32 <<< (16 + 4 * channel) := by
  interval_cases channel <;> rfl

theorem sameButIndex_applyFscc_iff {state : CardState} {port : Port}
    (small : port.channel < 2) (value : BitVec 32) (setting : Setting) :
    SameButIndex state (state.applyFscc port value setting) ↔
      (state.fsccView port.channel).set value setting =
        state.fsccView port.channel := by
  constructor
  · intro same
    rw [← fsccView_applyFscc_self state port small]
    exact same.fsccView port.channel
  · intro unchanged
    have indexed := congrArg FsccView.indexed unchanged
    have fields := congrArg FsccView.fields unchanged
    cases setting with
    | rs485 =>
        have acr := congrArg PortFields.acr fields
        have isOn := congrArg FsccView.rs485Bit unchanged
        refine .trans (setIndexed_same indexed acrOffset) ?_
        refine .trans (.of_eq (setAcr_eq_self acr)) ?_
        exact switchFcr_same (rs485BitMask_eq small) isOn
    | echoCancel =>
        have isOn := congrArg FsccView.echoCancelBit unchanged
        exact switchFcr_same (echoCancelBitMask_eq small) isOn
    | termination => exact .refl state
    | isochronous => exact setIndexed_same indexed cksOffset
    | externalTransmit => exact setIndexed_same indexed extOffset
    | frameLength => exact setIndexed_same indexed flrOffset
    | txTrigger =>
        exact (setIndexed_same indexed ttlOffset).trans
          (.of_eq (setField_eq_self fields))
    | rxTrigger =>
        exact (setIndexed_same indexed rtlOffset).trans
          (.of_eq (setField_eq_self fields))
    | sampleRate =>
        exact (setIndexed_same indexed tcrOffset).trans
          (.of_eq (setField_eq_self fields))

/-! ## Runs -/

section Runs

variable {fsccEnableAsync : Bool} {card : Card} {state : CardState}
  {history : List Event}

def FsccConsistent (state : CardState) : Prop :=
  ∀ channel < 2, (state.fsccView channel).Consistent

theorem reachable_fsccConsistent (fscc : fastcomGetCardType2 card = .fscc)
    (twoPorts : card.numPorts = 2)
    (reachable : Reachable fsccEnableAsync card state history) :
    FsccConsistent state := by
  refine reachable.invariant ?_ ?_
  · intro state initialised channel small
    rcases initialised_fscc fscc twoPorts initialised small with ⟨view, isView⟩
    rw [isView]
    exact view.initialised_consistent
  · intro state event next consistent operates
    have synced : FsccSynced state :=
      fun channel small => (consistent channel small).synced
    exact (operates_fscc_follows fscc twoPorts state event next synced
      operates).keeps (fun _ _ _ accepted consistent => consistent.set accepted)
        consistent

end Runs

end SerialFc
