import SerialFc.Exar.PciRuns
import SerialFc.Exar.PcieView
import SerialFc.Fscc.Refinement

/-! # Operating ranges

Each family of cards checks the arguments of its setters with comparisons of
its own, some behind the family dispatch and some behind a firmware check. Read
as numbers, what passes them is the operating range of the setting.
-/

namespace SerialFc

/-- The arguments in the documented operating range of a setting, on the
families that support it. Only frame length depends on the firmware. -/
def InOperatingRange (type : CardType) (firmware : Nat) (value : BitVec 32) :
    Setting → Prop
  | .rs485 | .echoCancel => type ≠ .unknown
  | .termination => type = .pcie
  | .isochronous => type = .fscc ∧ -1 ≤ value.toInt ∧ value.toInt ≤ 10
  | .externalTransmit => type = .fscc ∧ value.toNat ≤ 8191
  | .frameLength =>
      type = .fscc ∧ 0x20 ≤ firmware ∧ 1 ≤ value.toNat ∧ value.toNat ≤ 256
  | .txTrigger | .rxTrigger =>
      match type with
      | .pci => value.toNat ≤ 64
      | .pcie => value.toNat ≤ 255
      | .fscc => value.toNat ≤ 127
      | .unknown => False
  | .sampleRate =>
      match type with
      | .pci => value.toNat = 8 ∨ value.toNat = 16
      | .pcie => value.toNat = 4 ∨ value.toNat = 8 ∨ value.toNat = 16
      | .fscc => 4 ≤ value.toNat ∧ value.toNat ≤ 16
      | .unknown => False

/-! ## The checks of the families -/

section Checks

variable (firmware : Nat) (value : BitVec 32) (setting : Setting)

theorem pciAccepts_iff :
    PciAccepts value setting ↔ InOperatingRange .pci firmware value setting := by
  cases setting with
  | rs485 | echoCancel => simp [PciAccepts, InOperatingRange]
  | termination | isochronous => simp [PciAccepts, InOperatingRange]
  | externalTransmit | frameLength => simp [PciAccepts, InOperatingRange]
  | txTrigger | rxTrigger =>
      simp only [PciAccepts, InOperatingRange]
      bv_omega
  | sampleRate =>
      simp only [PciAccepts, InOperatingRange]
      bv_omega

theorem pcieAccepts_iff :
    PcieView.Accepts value setting ↔
      InOperatingRange .pcie firmware value setting := by
  cases setting with
  | rs485 | echoCancel => simp [PcieView.Accepts, InOperatingRange]
  | termination | isochronous => simp [PcieView.Accepts, InOperatingRange]
  | externalTransmit | frameLength =>
      simp [PcieView.Accepts, InOperatingRange]
  | txTrigger | rxTrigger =>
      simp only [PcieView.Accepts, InOperatingRange]
      bv_omega
  | sampleRate =>
      simp only [PcieView.Accepts, InOperatingRange]
      bv_omega

theorem fsccAccepts_iff (view : FsccView) :
    view.Accepts value setting ↔
      InOperatingRange .fscc view.firmwareRevision.toNat value setting := by
  cases setting with
  | rs485 | echoCancel => simp [FsccView.Accepts, InOperatingRange]
  | termination => simp [FsccView.Accepts, InOperatingRange]
  | isochronous =>
      simp only [FsccView.Accepts, InOperatingRange, true_and]
      omega
  | externalTransmit =>
      simp only [FsccView.Accepts, InOperatingRange, true_and]
      bv_omega
  | frameLength =>
      simp only [FsccView.Accepts, InOperatingRange, true_and]
      bv_omega
  | txTrigger | rxTrigger =>
      simp only [FsccView.Accepts, InOperatingRange]
      bv_omega
  | sampleRate =>
      simp only [FsccView.Accepts, InOperatingRange]
      bv_omega

end Checks

/-! ## The setters -/

theorem set_succeeds_or_refuses {port : Port}
    (known : fastcomGetCardType port ≠ .unknown) (setting : Setting)
    (value : BitVec 32) (state : CardState) :
    (InOperatingRange (fastcomGetCardType port)
        (state.firmwareRevision port.channel).toNat value setting ∧
      ∃ next, (cardMachine (fastcomGetCardType port)).run
        (setting.set port value) state = (some 0, next)) ∨
    (¬InOperatingRange (fastcomGetCardType port)
        (state.firmwareRevision port.channel).toNat value setting ∧
      Refuses (fastcomGetCardType port) (setting.set port value) state) := by
  cases type : fastcomGetCardType port with
  | pci =>
      rw [← pciAccepts_iff]
      by_cases accepted : PciAccepts value setting
      · exact .inl ⟨accepted, _,
          run_set_pci_of_accepts type state value setting accepted⟩
      · exact .inr ⟨accepted, refuses_set_pci type state value setting accepted⟩
  | pcie =>
      rw [← pcieAccepts_iff]
      by_cases accepted : PcieView.Accepts value setting
      · exact .inl ⟨accepted, _,
          run_set_pcie_of_accepts type state value setting accepted⟩
      · exact .inr ⟨accepted, refuses_set_pcie type state value setting accepted⟩
  | fscc =>
      have isRange := fsccAccepts_iff value setting
        (state.fsccView port.channel)
      by_cases accepted : (state.fsccView port.channel).Accepts value setting
      · exact .inl ⟨isRange.mp accepted, _,
          run_set_of_accepts type state value setting accepted⟩
      · exact .inr ⟨fun inRange => accepted (isRange.mpr inRange),
          refuses_set_fscc type state value setting accepted⟩
  | unknown => exact absurd type known

/-- A getter returns zero exactly when the family has the setting, and
otherwise leaves the card as it was. -/
theorem get_answers {port : Port} (known : fastcomGetCardType port ≠ .unknown)
    (setting : Setting) (before : BitVec 32) (state : CardState) :
    ∃ status value next,
      port.card.machine.run (setting.get port before) state =
          (some (status, value), next) ∧
        (status = 0 ↔ setting.SupportedBy (fastcomGetCardType port)
          (state.firmwareRevision port.channel).toNat) ∧
        (status ≠ 0 → next = state) := by
  change ∃ status value next,
    (cardMachine (fastcomGetCardType port)).run (setting.get port before) state =
        (some (status, value), next) ∧ _ ∧ _
  cases type : fastcomGetCardType port with
  | pci =>
      refine ⟨_, _, state, run_get_pci type state before setting, ?_,
        fun _ => rfl⟩
      cases setting <;> simp [Setting.SupportedBy, eprotonosupport]
  | pcie =>
      refine ⟨_, _, state, run_get_pcie type state before setting, ?_,
        fun _ => rfl⟩
      cases setting <;> simp [Setting.SupportedBy, eprotonosupport]
  | fscc =>
      rcases run_get_fscc type state before setting with ⟨next, run, outcome⟩
      refine ⟨_, _, next, run, ?_, ?_⟩
      · cases setting with
        | frameLength =>
            simp only [Setting.SupportedBy, true_and]
            split
            case isTrue old =>
              have old : (state.firmwareRevision port.channel).toNat < 0x20 :=
                old
              have failed : -eprotonosupport ≠ 0 := by decide
              exact iff_of_false failed (by omega)
            case isFalse recent =>
              have recent :
                  ¬(state.firmwareRevision port.channel).toNat < 0x20 := recent
              exact iff_of_true rfl (by omega)
        | _ => simp [Setting.SupportedBy, eprotonosupport]
      · intro failed
        rcases outcome with unchanged | ⟨zero, _⟩
        · exact unchanged
        · exact absurd zero failed
  | unknown => exact absurd type known

/-- A setter returns zero exactly in the operating range of its setting, and
otherwise neither writes a register nor stores a field. -/
theorem set_returns_zero_iff {port : Port}
    (known : fastcomGetCardType port ≠ .unknown) (setting : Setting)
    (value : BitVec 32) (state : CardState) :
    ∃ status next,
      port.card.machine.run (setting.set port value) state =
          (some status, next) ∧
        (status = 0 ↔ InOperatingRange (fastcomGetCardType port)
          (state.firmwareRevision port.channel).toNat value setting) ∧
        (status ≠ 0 → next = state ∧
          ∀ access ∈ port.card.machine.trace (setting.set port value) state,
            access.mutates = false) := by
  rcases set_succeeds_or_refuses known setting value state with
    ⟨inRange, next, run⟩ | ⟨outside, status, failed, run, reads⟩
  · refine ⟨0, next, run, iff_of_true rfl inRange, ?_⟩
    intro failed
    exact absurd rfl failed
  · exact ⟨status, state, run, iff_of_false failed outside,
      fun _ => ⟨rfl, reads⟩⟩

/-- Isochronous mode 11 on a port of an FSCC card. -/
theorem set_isochronous_returns_nonzero :
    ∃ status, status ≠ 0 ∧
      (cardMachine .fscc).run
        (fastcomSetIsochronous ⟨Card.ofDevice fsccId 2, 1⟩ 11) .blank =
          (some status, .blank) := by
  have known : fastcomGetCardType ⟨Card.ofDevice fsccId 2, 1⟩ ≠ .unknown := by
    decide
  rcases set_returns_zero_iff known .isochronous 11 .blank with
    ⟨status, next, run, isZero, unchanged⟩
  have outside : status ≠ 0 := by
    rw [ne_eq, isZero]
    simp [InOperatingRange]
  refine ⟨status, outside, ?_⟩
  rw [← (unchanged outside).1] at run ⊢
  exact run

end SerialFc
