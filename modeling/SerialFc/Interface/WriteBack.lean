import SerialFc.Exar.BaudRoundTrip
import SerialFc.Exar.PciConsistent
import SerialFc.Fscc.Consistent
import SerialFc.Interface.Sysfs

/-! # Writing back what was shown

A text that a show handler printed in decimal is read in hexadecimal. Writing
it back is no change where both agree, where what is read is refused, or where
there is nothing to set.
-/

namespace SerialFc

/-- The largest trigger level whose numeral is a level in hexadecimal too. -/
def largestReread : CardType → Nat
  | .pci => 40
  | .pcie => 99
  | .fscc => 79
  | .unknown => 0

def CardState.externalChars (state : CardState) (channel : Nat) : BitVec 32 :=
  (((state.uart channel).indexed exthOffset &&& 0x1f).setWidth 32 <<< 8) +
    ((state.uart channel).indexed extOffset).setWidth 32

/-- The states of a port in which the text of an attribute can be written
back. -/
def StableText (type : CardType) (state : CardState) (channel : Nat) :
    Attribute → Prop
  | .setting .rs485 => type = .pci → EchoPinAgrees state channel
  | .setting .isochronous =>
      type = .fscc → (state.uart channel).indexed cksOffset ≠ 0
  | .setting .externalTransmit =>
      let numChars := state.externalChars channel
      type = .fscc → 1999 < numChars.toNat ∨ numChars.toNat < 10 ∧
        (state.uart channel).indexed exthOffset = externalTransmitExth numChars
  | .setting .frameLength =>
      let length := ((state.uart channel).indexed flrOffset).toNat + 1
      type = .fscc ∧ 0x20 ≤ (state.firmwareRevision channel).toNat →
        length < 10 ∨ 100 < length
  | .setting .txTrigger =>
      let level := (state.fields channel).txTrigger.toNat
      level < 10 ∨ largestReread type < level
  | .setting .rxTrigger =>
      let level := (state.fields channel).rxTrigger.toNat
      level < 10 ∨ largestReread type < level
  | .setting .sampleRate =>
      type = .fscc → (state.fields channel).sampleRate ≠ 10
  | .baudRate =>
      let divisor := (latchedDivisor (state.uart channel).banked).toNat
      type = .pcie → divisor < 16 ∨ ∃ rate, divisor =
        2000000000 / (rate * (state.fields channel).sampleRate.toNat)
  | .setting .echoCancel | .setting .termination | .nineBit | .clockRate =>
      True

/-! ## Values reread -/

theorem reread_switch (on : Bool) :
    rereadUnsigned (if on then 1 else 0) = if on then 1 else 0 := by
  cases on with
  | false => exact rereadUnsigned_of_lt_ten (by decide)
  | true => exact rereadUnsigned_of_lt_ten (by decide)

theorem denote_reread_switch {setting : Setting}
    (isSwitch : setting = .rs485 ∨ setting = .echoCancel ∨
      setting = .termination) (on : Bool) :
    setting.denote (rereadUnsigned (if on then 1 else 0)) =
      if on then 1 else 0 := by
  rw [reread_switch]
  rcases isSwitch with rfl | rfl | rfl <;> cases on <;> rfl

theorem reread_unchanged_iff {shown limit : BitVec 32} {largest : Nat}
    (small : shown.toNat ≤ 8191)
    (first : reread 16 (largest + 1) = limit.toNat + 1) :
    (¬rereadUnsigned shown > limit → shown = rereadUnsigned shown) ↔
      shown.toNat < 10 ∨ largest < shown.toNat := by
  rw [← reread_within_iff (by decide) first, ← toNat_rereadUnsigned small,
    gt_iff_lt, BitVec.not_lt, BitVec.le_def, ← BitVec.toNat_inj]
  exact imp_congr_right fun _ => eq_comm

/-- Among the modes, `-1` is read as zero and `10` as sixteen. -/
theorem reread_isochronous_iff {mode : BitVec 32}
    (inRange : ¬(mode.toInt > 10 ∨ mode.toInt < -1)) {other : Prop} :
    (¬((rereadUnsigned mode).toInt > 10 ∨ (rereadUnsigned mode).toInt < -1) →
      ((0 : Int), mode) = (0, rereadUnsigned mode) ∧
        (Setting.isochronous = .externalTransmit → other)) ↔ mode ≠ -1 := by
  by_cases isOff : mode = -1
  · subst isOff
    rw [rereadUnsigned_neg_one]
    apply iff_of_false _ (by simp)
    intro unchanged
    have same := (unchanged (by decide)).1
    exact absurd (Prod.mk.inj same).2 (by decide)
  · apply iff_of_true _ isOff
    have cases := isochronousMode_cases inRange
    by_cases isTen : mode = 10
    · subst isTen
      have sixteen : rereadUnsigned 10 = 16 := by decide
      rw [sixteen]
      intro accepted
      exact absurd (.inl (by decide)) accepted
    · have small : mode.toNat < 10 := by bv_omega
      rw [rereadUnsigned_of_lt_ten small]
      exact fun _ => ⟨rfl, by simp⟩

theorem externalChars_le (state : CardState) (channel : Nat) :
    (state.externalChars channel).toNat ≤ 8191 := by
  have upper : ∀ high : BitVec 8, (high &&& 0x1f).toNat ≤ 31 := by decide
  have high := upper ((state.uart channel).indexed exthOffset)
  unfold CardState.externalChars
  generalize (state.uart channel).indexed exthOffset &&& 0x1f = exth at high ⊢
  bv_omega

/-! ## One set of the reread value -/

section WriteBack

variable {port : Port} {state : CardState} {setting : Setting}
  {status : Int} {shown : BitVec 32}

theorem writesBack_fscc_iff (fscc : fastcomGetCardType port = .fscc)
    (small : port.channel < 2)
    (consistent : (state.fsccView port.channel).Consistent)
    (reports : (state.fsccView port.channel).get 0 setting = (status, shown)) :
    WritesBack port state (.setting setting) ↔
      ((state.fsccView port.channel).Accepts (rereadUnsigned shown) setting →
        (status, shown) = (0, setting.denote (rereadUnsigned shown)) ∧
          (setting = .externalTransmit →
            (state.uart port.channel).indexed exthOffset =
              externalTransmitExth (rereadUnsigned shown))) := by
  have machineEq := machine_of_cardType fscc
  rcases run_get_of_synced fscc state consistent.synced 0 setting with
    ⟨index, runGet⟩
  generalize middleEq : state.setIndexed port.channel index
    (state.uart port.channel).indexed = middle at runGet
  have sameMiddle : SameButIndex state middle := by
    rw [← middleEq]
    exact setIndexed_same rfl index
  have viewMiddle := sameMiddle.fsccView port.channel
  rw [← machineEq, reports] at runGet
  apply writesBack_setting_iff runGet sameMiddle
  · intro next same
    rcases run_get_fscc fscc next 0 setting with ⟨later, runAgain, _⟩
    rw [same.fsccView, ← machineEq, reports] at runAgain
    exact ⟨later, runAgain⟩
  · intro accepted
    have unchanged := @sameButIndex_applyFscc_iff middle port small
      (rereadUnsigned shown) setting
    rw [viewMiddle, FsccView.set_eq_self_iff consistent accepted 0, reports]
      at unchanged
    rw [← viewMiddle] at accepted
    rw [machineEq]
    exact ⟨_, run_set_of_accepts fscc middle _ setting accepted, unchanged⟩
  · intro refused
    rw [← viewMiddle] at refused
    rcases refuses_set_fscc fscc middle _ setting refused with
      ⟨status, _, runSet, _⟩
    rw [machineEq]
    exact ⟨status, runSet⟩

theorem writesBack_pcie_iff (pcie : fastcomGetCardType port = .pcie)
    (small : port.channel < 8)
    (consistent : (state.pcieView port.channel).Consistent)
    (reports : (state.pcieView port.channel).get 0 setting = (status, shown)) :
    WritesBack port state (.setting setting) ↔
      (PcieView.Accepts (rereadUnsigned shown) setting →
        (status, shown) = (0, setting.denote (rereadUnsigned shown))) := by
  have machineEq := machine_of_cardType pcie
  have runGet : ∀ next, port.card.machine.run (setting.get port 0) next =
      (some ((next.pcieView port.channel).get 0 setting), next) := by
    intro next
    rw [machineEq]
    exact run_get_pcie pcie next 0 setting
  have runNow := runGet state
  rw [reports] at runNow
  apply writesBack_setting_iff runNow (.refl state)
  · intro next same
    have runAgain := runGet next
    rw [same.pcieView, reports] at runAgain
    exact ⟨next, runAgain⟩
  · intro accepted
    have unchanged := @sameButIndex_applyPcie_iff state port small
      (rereadUnsigned shown) setting
    rw [PcieView.set_eq_self_iff consistent accepted 0, reports] at unchanged
    rw [machineEq]
    exact ⟨_, run_set_pcie_of_accepts pcie state _ setting accepted, unchanged⟩
  · intro refused
    rcases refuses_set_pcie pcie state _ setting refused with
      ⟨status, _, runSet, _⟩
    rw [machineEq]
    exact ⟨status, runSet⟩

theorem writesBack_pci_iff (pci : fastcomGetCardType port = .pci)
    (small : port.channel < 8)
    (holds : ∀ setting, PciHolds state port.channel setting)
    (reports : state.getPci port.channel 0 setting = (status, shown)) :
    WritesBack port state (.setting setting) ↔
      (PciAccepts (rereadUnsigned shown) setting →
        (status, shown) = (0, setting.denote (rereadUnsigned shown)) ∧
          (setting = .rs485 → EchoPinAgrees state port.channel)) := by
  have machineEq := machine_of_cardType pci
  have runGet : ∀ next, port.card.machine.run (setting.get port 0) next =
      (some (next.getPci port.channel 0 setting), next) := by
    intro next
    rw [machineEq]
    exact run_get_pci pci next 0 setting
  have runNow := runGet state
  rw [reports] at runNow
  apply writesBack_setting_iff runNow (.refl state)
  · intro next same
    have runAgain := runGet next
    rw [same.getPci, reports] at runAgain
    exact ⟨next, runAgain⟩
  · intro accepted
    have unchanged := @sameButIndex_applyPci_iff state port _ 0 setting small
      holds accepted
    rw [reports] at unchanged
    rw [machineEq]
    exact ⟨_, run_set_pci_of_accepts pci state _ setting accepted, unchanged⟩
  · intro refused
    rcases refuses_set_pci pci state _ setting refused with
      ⟨status, _, runSet, _⟩
    rw [machineEq]
    exact ⟨status, runSet⟩

end WriteBack

/-! ## FSCC ports -/

section Fscc

variable {port : Port} (fscc : fastcomGetCardType port = .fscc)
  (small : port.channel < 2) {state : CardState}
  (consistent : (state.fsccView port.channel).Consistent)
include fscc small consistent

theorem writesBack_fscc_isochronous :
    WritesBack port state (.setting .isochronous) ↔
      StableText .fscc state port.channel (.setting .isochronous) := by
  rcases consistent.isochronous with ⟨mode, inRange, _, cks⟩
  have reports : (state.fsccView port.channel).get 0 .isochronous =
      (0, mode) := by
    simp only [FsccView.get, cks, isochronousMode_isochronousCks inRange]
  rw [writesBack_fscc_iff fscc small consistent reports]
  have stored : StableText .fscc state port.channel (.setting .isochronous) ↔
      mode ≠ -1 := by
    have cks : (state.uart port.channel).indexed cksOffset =
        isochronousCks mode := cks
    simp only [StableText, cks]
    rcases isochronousMode_cases inRange with rfl | rfl | rfl | rfl | rfl |
      rfl | rfl | rfl | rfl | rfl | rfl | rfl <;> decide
  rw [stored]
  exact reread_isochronous_iff inRange

/-- The count that is read again also has to be the one EXTH was written for. -/
theorem writesBack_fscc_externalTransmit :
    WritesBack port state (.setting .externalTransmit) ↔
      StableText .fscc state port.channel (.setting .externalTransmit) := by
  have reports : (state.fsccView port.channel).get 0 .externalTransmit =
      (0, state.externalChars port.channel) := rfl
  rw [writesBack_fscc_iff fscc small consistent reports]
  have bound := @reread_unchanged_iff (state.externalChars port.channel)
    8191 1999 (externalChars_le state port.channel) (by decide)
  have isStable : StableText .fscc state port.channel
      (.setting .externalTransmit) ↔
        1999 < (state.externalChars port.channel).toNat ∨
          (state.externalChars port.channel).toNat < 10 ∧
            (state.uart port.channel).indexed exthOffset =
              externalTransmitExth (state.externalChars port.channel) :=
    ⟨fun stable => stable rfl, fun stable _ => stable⟩
  rw [isStable]
  have limited := externalChars_le state port.channel
  generalize state.externalChars port.channel = shown at bound limited ⊢
  constructor
  · intro unchanged
    rcases bound.mp
      (fun accepted => (Prod.mk.inj (unchanged accepted).1).2) with
      single | high
    · rw [rereadUnsigned_of_lt_ten single] at unchanged
      have accepted : ¬shown > 8191 := by bv_omega
      exact .inr ⟨single, (unchanged accepted).2 rfl⟩
    · exact .inl high
  · intro stable accepted
    have same : shown = rereadUnsigned shown := bound.mpr (by omega) accepted
    have single : shown.toNat < 10 := by
      rw [← @reread_eq_self_iff 16 _ (by decide),
        ← toNat_rereadUnsigned limited, ← same]
    rw [← same]
    exact ⟨rfl, fun _ => (stable.resolve_left (by omega)).2⟩

/-- FLR holds one less than what is shown. -/
theorem writesBack_fscc_frameLength :
    WritesBack port state (.setting .frameLength) ↔
      StableText .fscc state port.channel (.setting .frameLength) := by
  by_cases old : state.firmwareRevision port.channel < 0x20
  · have reports : (state.fsccView port.channel).get 0 .frameLength =
        (-eprotonosupport, 0) := if_pos old
    rw [writesBack_fscc_iff fscc small consistent reports]
    apply iff_of_true
    · intro accepted
      exact absurd old accepted.2
    · rintro ⟨_, recent⟩
      bv_omega
  · have reports : (state.fsccView port.channel).get 0 .frameLength =
        (0, ((state.uart port.channel).indexed flrOffset).setWidth 32 + 1) :=
      if_neg old
    have isLength : (((state.uart port.channel).indexed
        flrOffset).setWidth 32 + 1).toNat =
          ((state.uart port.channel).indexed flrOffset).toNat + 1 := by
      bv_omega
    have isStable : StableText .fscc state port.channel
        (.setting .frameLength) ↔
          ((state.uart port.channel).indexed flrOffset).toNat + 1 < 10 ∨
            100 < ((state.uart port.channel).indexed flrOffset).toNat + 1 :=
      ⟨fun stable => stable ⟨rfl, by bv_omega⟩, fun stable _ => stable⟩
    have recent : ¬(state.fsccView port.channel).firmwareRevision < 0x20 :=
      old
    rw [writesBack_fscc_iff fscc small consistent reports, isStable, ← isLength]
    have positive : 1 ≤ (((state.uart port.channel).indexed
        flrOffset).setWidth 32 + 1).toNat := by
      bv_omega
    have limited : (((state.uart port.channel).indexed
        flrOffset).setWidth 32 + 1).toNat ≤ 256 := by
      bv_omega
    generalize ((state.uart port.channel).indexed
      flrOffset).setWidth 32 + 1 = shown at positive limited ⊢
    have bound := @reread_unchanged_iff shown 256 100 (by omega) (by decide)
    have grows := le_reread (show 10 ≤ 16 by decide) shown.toNat
    rw [← toNat_rereadUnsigned (by omega)] at grows
    have nonzero : rereadUnsigned shown ≠ 0 := by bv_omega
    rw [← bound]
    simp only [FsccView.Accepts, nonzero, recent, false_or,
      not_false_eq_true, and_true, Setting.denote, Prod.mk.injEq, true_and,
      reduceCtorEq, false_imp_iff]

theorem writesBack_fscc_sampleRate :
    WritesBack port state (.setting .sampleRate) ↔
      StableText .fscc state port.channel (.setting .sampleRate) := by
  have reports : (state.fsccView port.channel).get 0 .sampleRate =
      (0, (state.fields port.channel).sampleRate) := rfl
  have inRange : ¬((state.fields port.channel).sampleRate < 4 ∨
      (state.fields port.channel).sampleRate > 16) := consistent.sampleRate.2
  have bound := @reread_unchanged_iff (state.fields port.channel).sampleRate
    16 10 (by bv_omega) (by decide)
  have grows := le_reread (show 10 ≤ 16 by decide)
    (state.fields port.channel).sampleRate.toNat
  rw [← toNat_rereadUnsigned (by bv_omega)] at grows
  rw [writesBack_fscc_iff fscc small consistent reports]
  have low : 4#32 ≤ rereadUnsigned (state.fields port.channel).sampleRate := by
    bv_omega
  have isTen : ((state.fields port.channel).sampleRate.toNat < 10 ∨
      10 < (state.fields port.channel).sampleRate.toNat) ↔
        (state.fields port.channel).sampleRate ≠ 10 := by
    bv_omega
  rw [isTen] at bound
  simpa [FsccView.Accepts, Setting.denote, StableText, low] using bound

theorem writesBack_fscc_iff_stableText (setting : Setting) :
    WritesBack port state (.setting setting) ↔
      StableText .fscc state port.channel (.setting setting) := by
  have reduce := fun {setting : Setting} {status : Int} {shown : BitVec 32} =>
    @writesBack_fscc_iff port state setting status shown fscc small consistent
  cases setting with
  | rs485 =>
      rw [reduce rfl, denote_reread_switch (.inl rfl)]
      exact iff_of_true (fun _ => ⟨rfl, by simp⟩) (by simp [StableText])
  | echoCancel =>
      rw [reduce rfl, denote_reread_switch (.inr (.inl rfl))]
      exact iff_of_true (fun _ => ⟨rfl, by simp⟩) trivial
  | termination =>
      rw [reduce rfl]
      exact iff_of_true (fun accepted => accepted.elim) trivial
  | isochronous => exact writesBack_fscc_isochronous fscc small consistent
  | externalTransmit => exact writesBack_fscc_externalTransmit fscc small consistent
  | frameLength => exact writesBack_fscc_frameLength fscc small consistent
  | txTrigger =>
      have reports : (state.fsccView port.channel).get 0 .txTrigger =
          (0, (state.fields port.channel).txTrigger) :=
        (consistent.get_triggers 0).1
      have inRange : ¬(state.fields port.channel).txTrigger > 127 :=
        consistent.txTrigger.2
      have bound := @reread_unchanged_iff (state.fields port.channel).txTrigger
        127 79 (by bv_omega) (by decide)
      rw [reduce reports]
      simpa [FsccView.Accepts, Setting.denote, StableText, largestReread]
        using bound
  | rxTrigger =>
      have reports : (state.fsccView port.channel).get 0 .rxTrigger =
          (0, (state.fields port.channel).rxTrigger) :=
        (consistent.get_triggers 0).2
      have inRange : ¬(state.fields port.channel).rxTrigger > 127 :=
        consistent.rxTrigger.2
      have bound := @reread_unchanged_iff (state.fields port.channel).rxTrigger
        127 79 (by bv_omega) (by decide)
      rw [reduce reports]
      simpa [FsccView.Accepts, Setting.denote, StableText, largestReread]
        using bound
  | sampleRate => exact writesBack_fscc_sampleRate fscc small consistent

end Fscc

/-! ## Exar ports -/

theorem level_le_of_register {register : BitVec 8} {level : BitVec 32}
    (shadowed : register.setWidth 32 = level) : level.toNat ≤ 255 := by
  rw [← shadowed]
  bv_omega

theorem reread_trigger_iff {level limit : BitVec 32} {largest : Nat}
    (small : level.toNat ≤ 255)
    (first : reread 16 (largest + 1) = limit.toNat + 1) :
    (¬rereadUnsigned level > limit →
      ((0 : Int), level) = (0, rereadUnsigned level)) ↔
        level.toNat < 10 ∨ largest < level.toNat := by
  have bound := @reread_unchanged_iff level limit largest (by omega) first
  simpa only [Prod.mk.injEq, true_and] using bound

/-- The sampling rates of the Exar families: 16 is read as 22 and refused. -/
theorem reread_exarRate {rate : BitVec 32}
    (rates : rate = 4 ∨ rate = 8 ∨ rate = 16) :
    rereadUnsigned rate = rate ∨ rereadUnsigned rate = 22 := by
  rcases rates with rfl | rfl | rfl
  · exact .inl (rereadUnsigned_of_lt_ten (by decide))
  · exact .inl (rereadUnsigned_of_lt_ten (by decide))
  · exact .inr (by decide)

theorem writesBack_pcie_iff_stableText {port : Port}
    (pcie : fastcomGetCardType port = .pcie) (small : port.channel < 8)
    {state : CardState} (consistent : (state.pcieView port.channel).Consistent)
    (setting : Setting) :
    WritesBack port state (.setting setting) ↔
      StableText .pcie state port.channel (.setting setting) := by
  have reduce := fun {setting : Setting} {status : Int} {shown : BitVec 32} =>
    @writesBack_pcie_iff port state setting status shown pcie small consistent
  cases setting with
  | rs485 =>
      rw [reduce rfl, denote_reread_switch (.inl rfl)]
      exact iff_of_true (fun _ => rfl) (by simp [StableText])
  | echoCancel =>
      rw [reduce rfl, denote_reread_switch (.inr (.inl rfl))]
      exact iff_of_true (fun _ => rfl) trivial
  | termination =>
      have reports : (state.pcieView port.channel).get 0 .termination =
          (0, if !(state.pcieView port.channel).unterminated then 1 else 0) := by
        cases terminated : (state.pcieView port.channel).unterminated <;>
          simp [PcieView.get, terminated]
      rw [reduce reports, denote_reread_switch (.inr (.inr rfl))]
      exact iff_of_true (fun _ => rfl) trivial
  | isochronous | externalTransmit | frameLength =>
      rw [reduce rfl]
      exact iff_of_true (fun accepted => accepted.elim) (by simp [StableText])
  | txTrigger =>
      have limited : (state.fields port.channel).txTrigger.toNat ≤ 255 :=
        level_le_of_register consistent.shadowed.txTrigger
      rw [reduce rfl]
      exact reread_trigger_iff limited (by decide)
  | rxTrigger =>
      have limited : (state.fields port.channel).rxTrigger.toNat ≤ 255 :=
        level_le_of_register consistent.shadowed.rxTrigger
      rw [reduce rfl]
      exact reread_trigger_iff limited (by decide)
  | sampleRate =>
      rw [reduce rfl]
      apply iff_of_true _ (by simp [StableText])
      intro accepted
      rcases reread_exarRate consistent.shadowed.rates with same | refused
      · exact congrArg (Prod.mk 0) same.symm
      · rw [refused] at accepted
        exact absurd (by decide) accepted

theorem writesBack_pci_iff_stableText {port : Port}
    (pci : fastcomGetCardType port = .pci) (small : port.channel < 8)
    {state : CardState}
    (holds : ∀ setting, PciHolds state port.channel setting)
    (setting : Setting) :
    WritesBack port state (.setting setting) ↔
      StableText .pci state port.channel (.setting setting) := by
  have reduce := fun {setting : Setting} {status : Int} {shown : BitVec 32} =>
    @writesBack_pci_iff port state setting status shown pci small holds
  cases setting with
  | rs485 =>
      rw [reduce rfl, denote_reread_switch (.inl rfl)]
      simp [PciAccepts, StableText]
  | echoCancel =>
      rw [reduce rfl, denote_reread_switch (.inr (.inl rfl))]
      exact iff_of_true (fun _ => ⟨rfl, by simp⟩) trivial
  | termination =>
      rw [reduce rfl]
      exact iff_of_true (fun accepted => accepted.elim) trivial
  | isochronous | externalTransmit | frameLength =>
      rw [reduce rfl]
      exact iff_of_true (fun accepted => accepted.elim) (by simp [StableText])
  | txTrigger =>
      have limited : (state.fields port.channel).txTrigger.toNat ≤ 255 :=
        level_le_of_register (holds .txTrigger)
      have bound := @reread_trigger_iff (state.fields port.channel).txTrigger
        64 40 limited (by decide)
      rw [reduce rfl]
      simpa [PciAccepts, StableText, Setting.denote, largestReread] using bound
  | rxTrigger =>
      have limited : (state.fields port.channel).rxTrigger.toNat ≤ 255 :=
        level_le_of_register (holds .rxTrigger)
      have bound := @reread_trigger_iff (state.fields port.channel).rxTrigger
        64 40 limited (by decide)
      rw [reduce rfl]
      simpa [PciAccepts, StableText, Setting.denote, largestReread] using bound
  | sampleRate =>
      rw [reduce rfl]
      apply iff_of_true _ (by simp [StableText])
      intro accepted
      have rates : (state.fields port.channel).sampleRate = 4 ∨
          (state.fields port.channel).sampleRate = 8 ∨
          (state.fields port.channel).sampleRate = 16 := by
        rcases holds .sampleRate with ⟨rate, _⟩ | ⟨rate, _⟩
        · exact .inr (.inl rate)
        · exact .inr (.inr rate)
      rcases reread_exarRate rates with same | refused
      · exact ⟨congrArg (Prod.mk 0) same.symm, by simp⟩
      · rw [refused] at accepted
        exact absurd (by decide) accepted

/-! ## The baud rate -/

section BaudRate

variable {port : Port} {state : CardState}

theorem showHandler_baudRate (port : Port) :
    Attribute.baudRate.showHandler port = some (baudRateShow port) := rfl

theorem simpleStrtoul_rate (value : BitVec 64) :
    simpleStrtoul (Nat.toDigits 10 value.toNat ++ ['\n']) 10 = value := by
  rw [simpleStrtoul, readNumeral_line (by decide), reread_ten,
    BitVec.ofNat_toNat, BitVec.setWidth_eq]

theorem sameButIndex_setDivisor_iff (channel : Nat) (divisor : BitVec 32) :
    SameButIndex state (state.setDivisor channel divisor) ↔
      storeDivisor (state.uart channel).banked divisor =
        (state.uart channel).banked := by
  constructor
  · intro same
    have banked := same.banked channel
    simpa only [CardState.setDivisor, Function.update_self] using banked
  · intro same
    apply SameButIndex.of_eq
    rw [CardState.setDivisor, same, Function.update_eq_self]

section Handlers

variable (pcie : fastcomGetCardType port = .pcie)
  (rateNonzero : (state.fields port.channel).sampleRate ≠ 0)
include pcie rateNonzero

theorem run_baudRateShow
    (divisorNonzero : latchedDivisor (state.uart port.channel).banked ≠ 0) :
    (cardMachine .pcie).run (baudRateShow port) state =
      (some (Nat.toDigits 10 (baudRate
        (latchedDivisor (state.uart port.channel).banked)
        (state.fields port.channel).sampleRate).toNat ++ ['\n']), state) := by
  rw [baudRateShow, fastcomGetBaudRate, pcie, Machine.run_bind]
  simp only [run_pcieGetBaudRate port state rateNonzero divisorNonzero,
    Machine.run_pure]

theorem run_baudRateStore {value : BitVec 64} (valueNonzero : value ≠ 0) :
    (cardMachine .pcie).run
      (baudRateStore port (Nat.toDigits 10 value.toNat ++ ['\n'])) state =
        (some ((Nat.toDigits 10 value.toNat ++ ['\n']).length : Int),
          if value > baudLimit (state.fields port.channel).sampleRate then state
          else state.setDivisor port.channel
            (baudDivisor value (state.fields port.channel).sampleRate)) := by
  rw [baudRateStore, simpleStrtoul_rate, fastcomSetBaudRate, pcie,
    Machine.run_bind]
  rw [run_pcieSetBaudRate port state valueNonzero rateNonzero]
  by_cases tooHigh : value > baudLimit (state.fields port.channel).sampleRate
  · rw [if_pos tooHigh, if_pos tooHigh]
    rfl
  · rw [if_neg tooHigh, if_neg tooHigh]
    rfl

end Handlers

theorem writesBack_baudRate_pcie_iff (pcie : fastcomGetCardType port = .pcie)
    (rates : (state.fields port.channel).sampleRate = 4 ∨
      (state.fields port.channel).sampleRate = 8 ∨
      (state.fields port.channel).sampleRate = 16) :
    WritesBack port state .baudRate ↔
      StableText .pcie state port.channel .baudRate := by
  have machineEq := machine_of_cardType pcie
  have rateNonzero := sampleRate_ne_zero rates
  by_cases noDivisor : latchedDivisor (state.uart port.channel).banked = 0
  · apply iff_of_true
    · apply writesBack_of_trap
      intro shown isHandler
      rcases Option.some.inj isHandler with rfl
      have faults := run_pcieGetBaudRate_faults port state (.inr noDivisor)
      rw [machineEq, baudRateShow, fastcomGetBaudRate, pcie, Machine.run_bind]
      rcases run : (cardMachine .pcie).run (pcieGetBaudRate port) state with
        ⟨_ | result, next⟩
      · rfl
      · rw [run] at faults
        cases faults
    · intro _
      rw [noDivisor]
      exact .inl (by decide)
  · have divisorPos : 0 < (latchedDivisor
        (state.uart port.channel).banked).toNat := by
      bv_omega
    have valueNonzero := baudRate_ne_zero (latchedDivisor_lt _) divisorPos rates
    have runShow := run_baudRateShow pcie rateNonzero noDivisor
    have runStore := run_baudRateStore pcie rateNonzero valueNonzero
    have stored := storeDivisor_baudRate_iff divisorPos rates
    have stable : StableText .pcie state port.channel .baudRate ↔ _ :=
      ⟨fun stable => stable rfl, fun stable _ => stable⟩
    rw [← machineEq] at runShow runStore
    rw [stable, ← stored, writesBack_iff_of_run (showHandler_baudRate port)
      runShow runStore]
    · split
      case isTrue tooHigh =>
        exact iff_of_true (.refl state) fun inRange => absurd tooHigh inRange
      case isFalse inRange =>
        rw [sameButIndex_setDivisor_iff]
        exact ⟨fun same _ => same, fun same => same inRange⟩
    · intro same
      have runAgain := @run_baudRateShow port _ pcie
        (by rw [same.fields]; exact rateNonzero)
        (by rw [same.banked]; exact noDivisor)
      rw [same.fields, same.banked, ← machineEq] at runAgain
      exact ⟨_, runAgain⟩

theorem writesBack_baudRate_of_ne (notPcie : fastcomGetCardType port ≠ .pcie) :
    WritesBack port state .baudRate := by
  have get : fastcomGetBaudRate port 0 = pure (-eprotonosupport, 0) := by
    unfold fastcomGetBaudRate
    split
    · contradiction
    · rfl
  have set : ∀ value, fastcomSetBaudRate port value = pure (-eprotonosupport) := by
    intro value
    unfold fastcomSetBaudRate
    split
    · contradiction
    · rfl
  have runShow : ∀ before, port.card.machine.run (baudRateShow port) before =
      (some (Nat.toDigits 10 0 ++ ['\n']), before) := by
    intro before
    rw [baudRateShow, get]
    rfl
  have runStore : ∀ text, port.card.machine.run (baudRateStore port text) state =
      (some (text.length : Int), state) := by
    intro text
    rw [baudRateStore, set]
    rfl
  rw [writesBack_iff_of_run (showHandler_baudRate port) (runShow state)
    (runStore _) fun _ => ⟨state, runShow state⟩]
  exact .refl state

end BaudRate

/-! ## Attributes without a setting -/

theorem writesBack_nineBit (port : Port) (state : CardState) :
    WritesBack port state .nineBit := by
  have isHandler : Attribute.nineBit.showHandler port =
      some (nineBitShow port) := rfl
  have runShow : port.card.machine.run (nineBitShow port) state =
      (some (printInt 0 ++ ['\n']), state) := rfl
  have runStore : port.card.machine.run
      (Attribute.nineBit.storeHandler port (printInt 0 ++ ['\n'])) state =
        (some ((printInt 0 ++ ['\n']).length : Int), state) := rfl
  rw [writesBack_iff_of_run isHandler runShow runStore fun _ => ⟨state, runShow⟩]
  exact .refl state

theorem writesBack_clockRate (port : Port) (state : CardState) :
    WritesBack port state .clockRate := by
  intro shown isHandler
  cases isHandler

/-! ## Reachable states -/

/-- In every reachable state of every board, writing back the text of an
attribute is no change exactly when the text is stable. -/
theorem writesBack_iff_stableText {fsccEnableAsync : Bool} {card : Card}
    {state : CardState} {history : List Event}
    (board : boardNumPorts card.pciDev.device = some card.numPorts)
    (reachable : Reachable fsccEnableAsync card state history) {channel : Nat}
    (inRange : channel < card.numPorts) (attr : Attribute) :
    WritesBack ⟨card, channel⟩ state attr ↔
      StableText (fastcomGetCardType2 card) state channel attr := by
  have range := boardNumPorts_range card board
  have known := fastcomGetCardType2_known board
  cases attr with
  | nineBit => exact iff_of_true (writesBack_nineBit _ state) trivial
  | clockRate => exact iff_of_true (writesBack_clockRate _ state) trivial
  | setting setting =>
      cases type : fastcomGetCardType2 card with
      | pci =>
          have ports : card.numPorts ≤ 8 := by
            have sizes := range.1 type
            omega
          exact @writesBack_pci_iff_stableText ⟨card, channel⟩ type
            (Nat.lt_of_lt_of_le inRange ports) state
            (reachable_pciConsistent type ports reachable channel inRange)
            setting
      | pcie =>
          have ports := range.2.1 type
          exact @writesBack_pcie_iff_stableText ⟨card, channel⟩ type
            (Nat.lt_of_lt_of_le inRange ports) state
            (reachable_pcieConsistent type ports reachable channel inRange)
            setting
      | fscc =>
          have ports := range.2.2 type
          have small : channel < 2 := ports ▸ inRange
          exact @writesBack_fscc_iff_stableText ⟨card, channel⟩ type small state
            (reachable_fsccConsistent type ports reachable channel small)
            setting
      | unknown => exact absurd type known
  | baudRate =>
      by_cases pcie : fastcomGetCardType2 card = .pcie
      · have shadowed := reachable_pcieShadowed pcie (range.2.1 pcie) reachable
          channel inRange
        rw [pcie]
        exact @writesBack_baudRate_pcie_iff ⟨card, channel⟩ state pcie
          shadowed.rates
      · exact iff_of_true (writesBack_baudRate_of_ne pcie)
          fun isPcie => absurd isPcie pcie

/-- The sampling rate of a freshly initialised PCIe port can be written back,
though it is read as another number. -/
theorem writesBack_sampleRate_port3 :
    let card := Card.ofDevice fc422_4PcieId 4
    ∃ state, Initialised false card state ∧
      WritesBack ⟨card, 3⟩ state (.setting .sampleRate) := by
  intro card
  have isPcie : fastcomGetCardType2 card = .pcie := rfl
  have ports : card.numPorts ≤ 8 := by decide
  rcases exists_initialised_pcie isPcie ports false with ⟨state, initialised⟩
  have board : boardNumPorts card.pciDev.device = some card.numPorts := rfl
  have stable : StableText (fastcomGetCardType2 card) state 3
      (.setting .sampleRate) := fun isFscc => absurd isFscc (by decide)
  exact ⟨state, initialised, (writesBack_iff_stableText board
    (Run.start initialised) (show 3 < card.numPorts by decide) _).mpr stable⟩

/-- The default trigger level, shown as 32, comes back as 50. -/
theorem not_writesBack_txTrigger :
    let card := Card.ofDevice fc422_4PcieId 4
    ∃ state, Initialised false card state ∧
      ¬WritesBack ⟨card, 0⟩ state (.setting .txTrigger) := by
  intro card
  have isPcie : fastcomGetCardType2 card = .pcie := rfl
  have ports : card.numPorts ≤ 8 := by decide
  have inRange : 0 < card.numPorts := by decide
  rcases exists_initialised_pcie isPcie ports false with ⟨state, initialised⟩
  refine ⟨state, initialised, ?_⟩
  rcases initialised_pcie isPcie ports initialised inRange with ⟨view, isView⟩
  have consistent := view.initialised_consistent
  rw [← isView] at consistent
  have level : (state.fields 0).txTrigger = 32 :=
    congrArg (fun view => view.fields.txTrigger) isView
  rw [@writesBack_pcie_iff_stableText ⟨card, 0⟩ isPcie (by decide) state
    consistent]
  simp [StableText, level, largestReread]

end SerialFc
