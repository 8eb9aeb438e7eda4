import SerialFc.Driver.Views
import SerialFc.Fscc.Registers

/-! # An FSCC port as its settings see it

`FsccView` is the part of a card that belongs to one port: its line control
and indexed registers, its shadow fields and its own bits of FCR. On views the
setters and getters are plain functions, and obey the laws one expects of
independent settings.
-/

namespace SerialFc

structure FsccView where
  lcr : BitVec 8
  indexed : BitVec 8 → BitVec 8
  fields : PortFields
  rs485Bit : Bool
  echoCancelBit : Bool
  firmwareRevision : BitVec 8

def CardState.fsccView (state : CardState) (channel : Nat) : FsccView where
  lcr := (state.uart channel).lcr
  indexed := (state.uart channel).indexed
  fields := state.fields channel
  rs485Bit := anySet state.fcr (rs485BitMask channel)
  echoCancelBit := anySet state.fcr (echoCancelBitMask channel)
  firmwareRevision := state.firmwareRevision channel

namespace FsccView

def Accepts (view : FsccView) (value : BitVec 32) : Setting → Prop
  | .rs485 | .echoCancel => True
  | .termination => False
  | .isochronous => ¬(value.toInt > 10 ∨ value.toInt < -1)
  | .externalTransmit => ¬value > 8191
  | .frameLength =>
      ¬(value = 0 ∨ value > 256) ∧ ¬view.firmwareRevision < 0x20
  | .txTrigger | .rxTrigger => ¬value > 127
  | .sampleRate => ¬(value < 4 ∨ value > 16)

instance (view : FsccView) (value : BitVec 32) (setting : Setting) :
    Decidable (view.Accepts value setting) := by
  cases setting <;> unfold Accepts <;> infer_instance

def set (view : FsccView) (value : BitVec 32) : Setting → FsccView
  | .rs485 =>
      let acr := switchBits (decide (value ≠ 0)) 0x10 view.fields.acr
      { view with
        indexed := Function.update view.indexed acrOffset acr
        fields := { view.fields with acr }
        rs485Bit := decide (value ≠ 0) }
  | .echoCancel => { view with echoCancelBit := decide (value ≠ 0) }
  | .termination => view
  | .isochronous =>
      { view with
        indexed := Function.update
          (Function.update view.indexed mdmOffset (isochronousMdm value))
          cksOffset (isochronousCks value) }
  | .externalTransmit =>
      { view with
        indexed := Function.update
          (Function.update view.indexed exthOffset (externalTransmitExth value))
          extOffset (value.setWidth 8) }
  | .frameLength =>
      { view with
        indexed := Function.update view.indexed flrOffset
          ((value - 1).setWidth 8) }
  | .txTrigger =>
      { view with
        indexed := Function.update view.indexed ttlOffset (value.setWidth 8)
        fields := { view.fields with txTrigger := value } }
  | .rxTrigger =>
      { view with
        indexed := Function.update view.indexed rtlOffset (value.setWidth 8)
        fields := { view.fields with rxTrigger := value } }
  | .sampleRate =>
      { view with
        indexed := Function.update view.indexed tcrOffset (value.setWidth 8)
        fields := { view.fields with sampleRate := value } }

def get (view : FsccView) (before : BitVec 32) : Setting → Int × BitVec 32
  | .rs485 =>
      (0, if anySet view.fields.acr 0x10 && view.rs485Bit then 1 else 0)
  | .echoCancel => (0, if view.echoCancelBit then 1 else 0)
  | .termination => (-eprotonosupport, before)
  | .isochronous => (0, isochronousMode (view.indexed cksOffset) before)
  | .externalTransmit =>
      (0, ((view.indexed exthOffset &&& 0x1f).setWidth 32 <<< 8) +
        (view.indexed extOffset).setWidth 32)
  | .frameLength =>
      if view.firmwareRevision < 0x20 then (-eprotonosupport, before)
      else (0, (view.indexed flrOffset).setWidth 32 + 1)
  | .txTrigger => (0, (view.indexed ttlOffset &&& 0x7f).setWidth 32)
  | .rxTrigger => (0, (view.indexed rtlOffset &&& 0x7f).setWidth 32)
  | .sampleRate => (0, view.fields.sampleRate)

end FsccView

/-! ## Values survive their encodings -/

/-- A signed value in the range of modes is one of the twelve modes. -/
theorem isochronousMode_cases {mode : BitVec 32}
    (inRange : ¬(mode.toInt > 10 ∨ mode.toInt < -1)) :
    mode = -1 ∨ mode = 0 ∨ mode = 1 ∨ mode = 2 ∨ mode = 3 ∨ mode = 4 ∨
      mode = 5 ∨ mode = 6 ∨ mode = 7 ∨ mode = 8 ∨ mode = 9 ∨ mode = 10 := by
  rw [BitVec.toInt_eq_toNat_cond] at inRange
  bv_omega

theorem isochronousMode_isochronousCks {mode : BitVec 32}
    (inRange : ¬(mode.toInt > 10 ∨ mode.toInt < -1)) (before : BitVec 32) :
    isochronousMode (isochronousCks mode) before = mode := by
  rcases isochronousMode_cases inRange with rfl | rfl | rfl | rfl | rfl | rfl |
    rfl | rfl | rfl | rfl | rfl | rfl <;> rfl

theorem and_sevenBits (level : BitVec 8) (small : level ≤ 127#8) :
    level &&& 0x7f = level := by
  revert level
  decide

theorem trigger_decode {value : BitVec 32} (inRange : ¬value > 127) :
    (value.setWidth 8 &&& 0x7f).setWidth 32 = value := by
  rw [and_sevenBits _ (by bv_omega)]
  bv_omega

theorem exth_and_fiveBits (high : BitVec 8) (small : high ≤ 31#8) :
    (0x80#8 ||| high) &&& 0x1f = high := by
  revert high
  decide

theorem externalTransmit_decode {numChars : BitVec 32}
    (inRange : ¬numChars > 8191) :
    ((externalTransmitExth numChars &&& 0x1f).setWidth 32 <<< 8) +
      (numChars.setWidth 8).setWidth 32 = numChars := by
  unfold externalTransmitExth
  split
  · have high : (numChars >>> 8).setWidth 8 ≤ 31#8 := by bv_omega
    rw [BitVec.setWidth_or]
    change (((0x80#8 ||| (numChars >>> 8).setWidth 8) &&& 0x1f).setWidth 32
      <<< 8) + _ = _
    rw [exth_and_fiveBits _ high]
    bv_omega
  · have zero : numChars = 0 := by simpa using ‹¬numChars ≠ 0›
    subst zero
    rfl

theorem frameLength_decode {numChars : BitVec 32}
    (inRange : ¬(numChars = 0 ∨ numChars > 256)) :
    ((numChars - 1).setWidth 8).setWidth 32 + 1 = numChars := by
  bv_omega

/-! ## Laws of the view -/

namespace FsccView

variable (view : FsccView) (value before : BitVec 32)

theorem get_set_same (setting : Setting) (accepted : view.Accepts value setting) :
    (view.set value setting).get before setting =
      (0, setting.denote value) := by
  cases setting with
  | rs485 =>
      have acrBit := anySet_switchBits (decide (value ≠ 0))
        (show (0x10 : BitVec 8) ≠ 0#8 by decide) view.fields.acr
      simp only [get, set, Setting.denote, acrBit, Bool.and_self,
        decide_eq_true_eq]
  | echoCancel => simp [get, set, Setting.denote]
  | termination => cases accepted
  | isochronous =>
      simp [get, set, Setting.denote,
        isochronousMode_isochronousCks accepted]
  | externalTransmit =>
      have decoded := externalTransmit_decode accepted
      simpa [get, set, Setting.denote, exthOffset, extOffset] using decoded
  | frameLength =>
      have decoded := frameLength_decode accepted.1
      simp only [get, set, Setting.denote, if_neg accepted.2,
        Function.update_self]
      rw [decoded]
  | txTrigger =>
      simp only [get, set, Setting.denote, Function.update_self]
      rw [trigger_decode accepted]
  | rxTrigger =>
      simp only [get, set, Setting.denote, Function.update_self]
      rw [trigger_decode accepted]
  | sampleRate => rfl

theorem get_set_of_ne {setting other : Setting} (different : setting ≠ other) :
    (view.set value setting).get before other = view.get before other := by
  cases setting <;> cases other <;>
    first
    | exact absurd rfl different
    | rfl

/-- The hardware ACR is the shadow, and reading of the indexed registers is
disabled. -/
structure AcrSynced : Prop where
  hardware : view.indexed acrOffset = view.fields.acr
  readDisabled : view.fields.acr.getLsbD 6 = false

theorem AcrSynced.set {view : FsccView} (synced : view.AcrSynced)
    (setting : Setting) : (view.set value setting).AcrSynced := by
  cases setting with
  | rs485 =>
      refine ⟨by simp [FsccView.set], ?_⟩
      change (switchBits (decide (value ≠ 0)) 0x10#8 _).getLsbD 6 = false
      rw [getLsbD_switchBits]
      exact synced.readDisabled
  | echoCancel => exact ⟨synced.hardware, synced.readDisabled⟩
  | termination => exact synced
  | isochronous => exact ⟨synced.hardware, synced.readDisabled⟩
  | externalTransmit => exact ⟨synced.hardware, synced.readDisabled⟩
  | frameLength => exact ⟨synced.hardware, synced.readDisabled⟩
  | txTrigger => exact ⟨synced.hardware, synced.readDisabled⟩
  | rxTrigger => exact ⟨synced.hardware, synced.readDisabled⟩
  | sampleRate => exact ⟨synced.hardware, synced.readDisabled⟩

theorem set_lcr (setting : Setting) : (view.set value setting).lcr = view.lcr := by
  cases setting <;> rfl

def model : SettingsModel FsccView where
  Accepts := Accepts
  decidableAccepts := inferInstance
  set := set
  get := get
  getSetSame view value before setting := view.get_set_same value before setting
  getSetOfNe view value before _ _ := view.get_set_of_ne value before

/-- The view a port starts with, whatever it held before: LCR as
`fastcom_init_triggers` leaves it, the shadow of ACR cleared, and the
defaults. -/
def initialised (view : FsccView) : FsccView :=
  model.settleAll
    { view with lcr := 0xbf, fields := { view.fields with acr := 0 } }
    defaultSettings

/-- The first default, rs485, writes the cleared shadow to the hardware. -/
theorem initialised_synced : view.initialised.AcrSynced := by
  unfold initialised defaultSettings
  rw [SettingsModel.settleAll]
  apply SettingsModel.settleAll_keeps
    (fun _ value setting _ synced => synced.set value setting)
  refine ⟨?_, ?_⟩
  · simp [SettingsModel.settle, model, Accepts, set]
  · simp [SettingsModel.settle, model, Accepts, set, defaultRs485, switchBits]

end FsccView

end SerialFc
