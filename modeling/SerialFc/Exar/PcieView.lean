import SerialFc.Driver.Views
import SerialFc.Exar.Registers

/-! # A PCIe port as its settings see it

A PCIe port owns one bit of each shared configuration register, at the
position of its channel, so the settings of different ports are independent.
-/

namespace SerialFc

structure PcieView where
  fctr : BitVec 8
  mcr : BitVec 8
  txtrg : BitVec 8
  rxtrg : BitVec 8
  fields : PortFields
  mode4x : Bool
  mode8x : Bool
  /-- The port's MPIOLVL bit, low when the line is terminated. -/
  unterminated : Bool
  echoCancel : Bool

def CardState.pcieView (state : CardState) (channel : Nat) : PcieView where
  fctr := (state.uart channel).plain uartExarFctr
  mcr := (state.uart channel).plain mcrOffset
  txtrg := (state.uart channel).plain uartExarTxtrg
  rxtrg := (state.uart channel).plain uartExarRxtrg
  fields := state.fields channel
  mode4x := anySet (state.config uartExar4xmode) (1#8 <<< channel)
  mode8x := anySet (state.config uartExar8xmode) (1#8 <<< channel)
  unterminated := anySet (state.config mpiolvlOffset) (1#8 <<< channel)
  echoCancel := anySet (state.config mpiolvlhOffset) (1#8 <<< channel)

namespace PcieView

def Accepts (value : BitVec 32) : Setting → Prop
  | .rs485 | .echoCancel | .termination => True
  | .isochronous | .externalTransmit | .frameLength => False
  | .txTrigger | .rxTrigger => ¬value > 255
  | .sampleRate => ¬(value ≠ 4 ∧ value ≠ 8 ∧ value ≠ 16)

instance (value : BitVec 32) (setting : Setting) :
    Decidable (Accepts value setting) := by
  cases setting <;> unfold Accepts <;> infer_instance

def set (view : PcieView) (value : BitVec 32) : Setting → PcieView
  | .rs485 =>
      { view with
        mcr := switchBits (decide (value ≠ 0)) 0x04 view.mcr
        fctr := switchBits (decide (value ≠ 0)) 0x20 view.fctr }
  | .echoCancel => { view with echoCancel := decide (value ≠ 0) }
  | .termination => { view with unterminated := decide (value = 0) }
  | .isochronous | .externalTransmit | .frameLength => view
  | .txTrigger =>
      { view with
        txtrg := value.setWidth 8
        fields := { view.fields with txTrigger := value } }
  | .rxTrigger =>
      { view with
        rxtrg := value.setWidth 8
        fields := { view.fields with rxTrigger := value } }
  | .sampleRate =>
      { view with
        mode4x := decide (value = 4)
        mode8x := decide (value = 8)
        fields := { view.fields with sampleRate := value } }

/-- What a getter reports. The trigger levels come from the shadow fields. -/
def get (view : PcieView) (before : BitVec 32) : Setting → Int × BitVec 32
  | .rs485 => (0, if anySet view.fctr 0x20 then 1 else 0)
  | .echoCancel => (0, if view.echoCancel then 1 else 0)
  | .termination => (0, if view.unterminated then 0 else 1)
  | .isochronous | .externalTransmit | .frameLength =>
      (-eprotonosupport, before)
  | .txTrigger => (0, view.fields.txTrigger)
  | .rxTrigger => (0, view.fields.rxTrigger)
  | .sampleRate => (0, view.fields.sampleRate)

variable (view : PcieView) (value before : BitVec 32)

theorem get_set_same (setting : Setting) (accepted : Accepts value setting) :
    (view.set value setting).get before setting =
      (0, setting.denote value) := by
  cases setting with
  | rs485 =>
      have fctrBit := anySet_switchBits (decide (value ≠ 0))
        (show (0x20 : BitVec 8) ≠ 0#8 by decide) view.fctr
      simp only [get, set, Setting.denote, fctrBit, decide_eq_true_eq]
  | echoCancel => simp [get, set, Setting.denote]
  | termination => simp [get, set, Setting.denote]
  | isochronous => cases accepted
  | externalTransmit => cases accepted
  | frameLength => cases accepted
  | txTrigger => rfl
  | rxTrigger => rfl
  | sampleRate => rfl

theorem get_set_of_ne {setting other : Setting} (different : setting ≠ other) :
    (view.set value setting).get before other = view.get before other := by
  cases setting <;> cases other <;>
    first
    | exact absurd rfl different
    | rfl

def model : SettingsModel PcieView where
  Accepts _ := Accepts
  decidableAccepts := inferInstance
  set := set
  get := get
  getSetSame view value before setting := view.get_set_same value before setting
  getSetOfNe view value before _ _ := view.get_set_of_ne value before

/-- The mode bits encode the sample rate, and the write-only trigger registers
hold their shadows. -/
structure Shadowed : Prop where
  rate : (view.fields.sampleRate = 4 ∧ view.mode4x = true ∧
      view.mode8x = false) ∨
    (view.fields.sampleRate = 8 ∧ view.mode4x = false ∧ view.mode8x = true) ∨
    (view.fields.sampleRate = 16 ∧ view.mode4x = false ∧ view.mode8x = false)
  txTrigger : view.txtrg.setWidth 32 = view.fields.txTrigger
  rxTrigger : view.rxtrg.setWidth 32 = view.fields.rxTrigger

theorem setWidth_of_inRange {value : BitVec 32} (inRange : ¬value > 255) :
    (value.setWidth 8).setWidth 32 = value := by
  bv_omega

theorem Shadowed.set {view : PcieView} (shadowed : view.Shadowed)
    (setting : Setting) (accepted : Accepts value setting) :
    (view.set value setting).Shadowed := by
  cases setting with
  | rs485 | echoCancel | termination =>
      exact ⟨shadowed.rate, shadowed.txTrigger, shadowed.rxTrigger⟩
  | isochronous => cases accepted
  | externalTransmit => cases accepted
  | frameLength => cases accepted
  | txTrigger =>
      exact ⟨shadowed.rate, setWidth_of_inRange accepted, shadowed.rxTrigger⟩
  | rxTrigger =>
      exact ⟨shadowed.rate, shadowed.txTrigger, setWidth_of_inRange accepted⟩
  | sampleRate =>
      refine ⟨?_, shadowed.txTrigger, shadowed.rxTrigger⟩
      have rates : value = 4 ∨ value = 8 ∨ value = 16 := by
        simpa only [Accepts, ne_eq, not_and_or, not_not] using accepted
      rcases rates with rfl | rfl | rfl
      · exact .inl ⟨rfl, rfl, rfl⟩
      · exact .inr (.inl ⟨rfl, rfl, rfl⟩)
      · exact .inr (.inr ⟨rfl, rfl, rfl⟩)

theorem Shadowed.rates {view : PcieView} (shadowed : view.Shadowed) :
    view.fields.sampleRate = 4 ∨ view.fields.sampleRate = 8 ∨
      view.fields.sampleRate = 16 := by
  rcases shadowed.rate with ⟨rate, _⟩ | ⟨rate, _⟩ | ⟨rate, _⟩
  · exact .inl rate
  · exact .inr (.inl rate)
  · exact .inr (.inr rate)

theorem Shadowed.rate_ne_zero {view : PcieView} (shadowed : view.Shadowed) :
    view.fields.sampleRate ≠ 0 := by
  rcases shadowed.rates with rate | rate | rate <;> rw [rate] <;> decide

end PcieView

/-! ## The driver's operations refine the view -/

def CardState.applyPcie (state : CardState) (port : Port) (value : BitVec 32) :
    Setting → CardState
  | .rs485 =>
      (state.setPlain port.channel mcrOffset
        (switchBits (decide (value ≠ 0)) 0x04
          ((state.uart port.channel).plain mcrOffset))).setPlain port.channel
            uartExarFctr
            (switchBits (decide (value ≠ 0)) 0x20
              ((state.uart port.channel).plain uartExarFctr))
  | .echoCancel =>
      state.setConfig mpiolvlhOffset
        (switchBits (decide (value ≠ 0)) (0x1#8 <<< port.channel)
          (state.config mpiolvlhOffset))
  | .termination =>
      state.setConfig mpiolvlOffset
        (switchBits (decide (value = 0)) (0x1#8 <<< port.channel)
          (state.config mpiolvlOffset))
  | .isochronous | .externalTransmit | .frameLength => state
  | .txTrigger =>
      (state.setPlain port.channel uartExarTxtrg (value.setWidth 8)).setField
        port.channel .txTrigger value
  | .rxTrigger =>
      (state.setPlain port.channel uartExarRxtrg (value.setWidth 8)).setField
        port.channel .rxTrigger value
  | .sampleRate =>
      ((state.setConfig uartExar4xmode
        (switchBits (decide (value = 4)) (1#8 <<< port.channel)
          (state.config uartExar4xmode))).setConfig uartExar8xmode
            (switchBits (decide (value = 8)) (1#8 <<< port.channel)
              (state.config uartExar8xmode))).setField port.channel
                .sampleRate value

section Refinement

variable {port : Port} (pcie : fastcomGetCardType port = .pcie)
variable (state : CardState) (value : BitVec 32)
include pcie

theorem run_set_pcie_of_accepts (setting : Setting)
    (accepted : PcieView.Accepts value setting) :
    (cardMachine .pcie).run (setting.set port value) state =
      (some 0, state.applyPcie port value setting) := by
  cases setting with
  | rs485 =>
      simp [Setting.set, fastcomSetRs485, pcie, run_setRs485Pcie,
        CardState.applyPcie]
  | echoCancel =>
      simp [Setting.set, fastcomSetEchoCancel, pcie, run_setEchoCancelPcie,
        CardState.applyPcie]
  | termination =>
      simp [Setting.set, fastcomSetTermination, pcie, run_setTerminationPcie,
        CardState.applyPcie]
  | isochronous => cases accepted
  | externalTransmit => cases accepted
  | frameLength => cases accepted
  | txTrigger =>
      have run := run_setTriggerExar port state
        (show CardType.pcie ≠ .fscc by decide) isPlain_txtrg accepted
      simp only [Setting.set, fastcomSetTxTrigger, fastcomSetTxTriggerPcie, pcie,
        Machine.run_bind, run]
      rfl
  | rxTrigger =>
      have run := run_setTriggerExar port state
        (show CardType.pcie ≠ .fscc by decide) isPlain_rxtrg accepted
      simp only [Setting.set, fastcomSetRxTrigger, fastcomSetRxTriggerPcie, pcie,
        Machine.run_bind, run]
      rfl
  | sampleRate =>
      simp only [Setting.set, fastcomSetSampleRate, pcie, Machine.run_bind,
        run_setSampleRatePcie port state value accepted]
      rfl

theorem refuses_set_pcie (setting : Setting)
    (refused : ¬PcieView.Accepts value setting) :
    Refuses .pcie (setting.set port value) state := by
  cases setting with
  | rs485 => exact absurd trivial refused
  | echoCancel => exact absurd trivial refused
  | termination => exact absurd trivial refused
  | isochronous =>
      simp only [Setting.set, fastcomSetIsochronous, pcie]
      exact refuses_eprotonosupport _ state
  | externalTransmit =>
      simp only [Setting.set, fastcomSetExternalTransmit, pcie]
      exact refuses_eprotonosupport _ state
  | frameLength =>
      simp only [Setting.set, fastcomSetFrameLength, pcie]
      exact refuses_eprotonosupport _ state
  | txTrigger =>
      have outside := not_not.mp refused
      simp only [Setting.set, fastcomSetTxTrigger, pcie,
        fastcomSetTxTriggerPcie, setTriggerExar, if_pos outside]
      exact refuses_einval _ state
  | rxTrigger =>
      have outside := not_not.mp refused
      simp only [Setting.set, fastcomSetRxTrigger, pcie,
        fastcomSetRxTriggerPcie, setTriggerExar, if_pos outside]
      exact refuses_einval _ state
  | sampleRate =>
      have outside := not_not.mp refused
      simp only [Setting.set, fastcomSetSampleRate, pcie,
        fastcomSetSampleRatePcie, if_pos outside]
      exact refuses_einval _ state

theorem run_get_pcie (before : BitVec 32) (setting : Setting) :
    (cardMachine .pcie).run (setting.get port before) state =
      (some ((state.pcieView port.channel).get before setting), state) := by
  cases setting with
  | rs485 =>
      have exar : CardType.pcie ≠ .fscc := by decide
      simp only [Setting.get, fastcomGetRs485, pcie, Machine.run_bind,
        run_getRs485Pci port state exar]
      rfl
  | echoCancel =>
      simp only [Setting.get, fastcomGetEchoCancel, pcie, Machine.run_bind,
        run_getEchoCancelPcie]
      rfl
  | termination =>
      simp only [Setting.get, fastcomGetTermination, pcie, Machine.run_bind,
        run_getTerminationPcie]
      rfl
  | isochronous => simp [Setting.get, fastcomGetIsochronous, pcie, PcieView.get]
  | externalTransmit =>
      simp [Setting.get, fastcomGetExternalTransmit, pcie, PcieView.get]
  | frameLength =>
      simp [Setting.get, fastcomGetFrameLength, pcie, PcieView.get]
  | txTrigger =>
      simp [Setting.get, fastcomGetTxTrigger, pcie, PcieView.get,
        CardState.pcieView, PortFields.get]
  | rxTrigger =>
      simp [Setting.get, fastcomGetRxTrigger, pcie, PcieView.get,
        CardState.pcieView, PortFields.get]
  | sampleRate =>
      simp [Setting.get, fastcomGetSampleRate, PcieView.get,
        CardState.pcieView, PortFields.get]

end Refinement

end SerialFc
