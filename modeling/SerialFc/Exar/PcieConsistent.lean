import SerialFc.Exar.PcieRuns

/-! # Registers and shadows of a PCIe port

In every reachable state the registers of a port hold what its settings stand
for, so that setting what a getter reports is no change.
-/

namespace SerialFc

/-! ## Writes that change nothing -/

section Writes

variable {state : CardState}

theorem setConfig_eq_self {offset : Nat} {value : BitVec 8}
    (same : value = state.config offset) :
    state.setConfig offset value = state := by
  rw [CardState.setConfig, same, Function.update_eq_self]

theorem setPlain_eq_self {channel offset : Nat} {value : BitVec 8}
    (same : value = (state.uart channel).plain offset) :
    state.setPlain channel offset value = state := by
  rw [CardState.setPlain, same, Function.update_eq_self,
    Function.update_eq_self]

end Writes

namespace PcieView

structure Consistent (view : PcieView) : Prop where
  shadowed : view.Shadowed
  transmitter : anySet view.mcr 0x04 = anySet view.fctr 0x20

theorem Consistent.set {view : PcieView} (consistent : view.Consistent)
    {value : BitVec 32} {setting : Setting} (accepted : Accepts value setting) :
    (view.set value setting).Consistent := by
  refine ⟨consistent.shadowed.set value setting accepted, ?_⟩
  cases setting with
  | rs485 =>
      have mcr := anySet_switchBits (decide (value ≠ 0))
        (show (0x04 : BitVec 8) ≠ 0#8 by decide) view.mcr
      have fctr := anySet_switchBits (decide (value ≠ 0))
        (show (0x20 : BitVec 8) ≠ 0#8 by decide) view.fctr
      exact mcr.trans fctr.symm
  | echoCancel | termination => exact consistent.transmitter
  | isochronous | externalTransmit | frameLength =>
      exact consistent.transmitter
  | txTrigger | rxTrigger | sampleRate => exact consistent.transmitter

theorem initialised_consistent (view : PcieView) :
    view.initialised.Consistent := by
  refine ⟨view.initialised_shadowed, ?_⟩
  have mcr := anySet_switchBits false (show (0x04 : BitVec 8) ≠ 0#8 by decide)
    view.mcr
  have fctr := anySet_switchBits false (show (0x20 : BitVec 8) ≠ 0#8 by decide)
    (view.fctr ||| 0xc0)
  exact mcr.trans fctr.symm

/-! ## Setting what is set -/

variable {view : PcieView} {value : BitVec 32}

theorem get_of_set_eq_self {setting : Setting} (accepted : Accepts value setting)
    (unchanged : view.set value setting = view) (before : BitVec 32) :
    view.get before setting = (0, setting.denote value) := by
  have answer := view.get_set_same value before setting accepted
  rw [unchanged] at answer
  exact answer

theorem set_eq_self_of_get (consistent : view.Consistent) {setting : Setting}
    {before : BitVec 32}
    (reported : view.get before setting = (0, setting.denote value)) :
    view.set value setting = view := by
  have answer := (Prod.mk.inj reported).2
  cases setting with
  | rs485 =>
      have isOn := Setting.switch_of_report answer
      have fctr : switchBits (decide (value ≠ 0)) 0x20#8 view.fctr = view.fctr :=
        switchBits_shiftedOne_of_anySet (show
          anySet view.fctr (1#8 <<< 5) = decide (value ≠ 0) from isOn)
      have mcr : switchBits (decide (value ≠ 0)) 0x04#8 view.mcr = view.mcr :=
        switchBits_shiftedOne_of_anySet (show
          anySet view.mcr (1#8 <<< 2) = decide (value ≠ 0) from
            consistent.transmitter.trans isOn)
      simp only [PcieView.set]
      rw [show switchBits (decide (value ≠ 0)) 0x20 view.fctr = view.fctr from
        fctr, show switchBits (decide (value ≠ 0)) 0x04 view.mcr = view.mcr from
        mcr]
  | echoCancel =>
      have isOn := Setting.switch_of_report answer
      simp only [PcieView.set, ← isOn]
  | termination =>
      have isOff : view.unterminated = decide (value = 0) := by
        have isOn : (!view.unterminated) = decide (value ≠ 0) := by
          apply Setting.switch_of_report
          cases terminated : view.unterminated <;>
            simpa [terminated, Setting.denote, PcieView.get] using answer
        cases terminated : view.unterminated <;>
          simpa [terminated] using isOn
      simp only [PcieView.set, ← isOff]
  | isochronous | externalTransmit | frameLength => rfl
  | txTrigger =>
      obtain rfl : view.fields.txTrigger = value := answer
      have register : view.fields.txTrigger.setWidth 8 = view.txtrg := by
        rw [← consistent.shadowed.txTrigger]
        bv_omega
      simp only [PcieView.set, register]
  | rxTrigger =>
      obtain rfl : view.fields.rxTrigger = value := answer
      have register : view.fields.rxTrigger.setWidth 8 = view.rxtrg := by
        rw [← consistent.shadowed.rxTrigger]
        bv_omega
      simp only [PcieView.set, register]
  | sampleRate =>
      obtain rfl : view.fields.sampleRate = value := answer
      have modes : decide (view.fields.sampleRate = 4) = view.mode4x ∧
          decide (view.fields.sampleRate = 8) = view.mode8x := by
        rcases consistent.shadowed.rate with ⟨rate, bit4x, bit8x⟩ |
          ⟨rate, bit4x, bit8x⟩ | ⟨rate, bit4x, bit8x⟩ <;>
          simp [rate, bit4x, bit8x]
      simp only [PcieView.set, modes.1, modes.2]

theorem set_eq_self_iff (consistent : view.Consistent) {setting : Setting}
    (accepted : Accepts value setting) (before : BitVec 32) :
    view.set value setting = view ↔
      view.get before setting = (0, setting.denote value) :=
  ⟨fun unchanged => get_of_set_eq_self accepted unchanged before,
    set_eq_self_of_get consistent⟩

end PcieView

/-! ## The card under its views -/

theorem SameButIndex.pcieView {before after : CardState}
    (same : SameButIndex before after) (channel : Nat) :
    after.pcieView channel = before.pcieView channel := by
  simp only [CardState.pcieView, same.plain, same.config, same.fields]

theorem sameButIndex_applyPcie_iff {state : CardState} {port : Port}
    (small : port.channel < 8) (value : BitVec 32) (setting : Setting) :
    SameButIndex state (state.applyPcie port value setting) ↔
      (state.pcieView port.channel).set value setting =
        state.pcieView port.channel := by
  constructor
  · intro same
    rw [← pcieView_applyPcie_self state port value small]
    exact same.pcieView port.channel
  · intro unchanged
    have plain : ∀ {offset : Nat} {byte : BitVec 8},
        byte = (state.uart port.channel).plain offset →
        SameButIndex state (state.setPlain port.channel offset byte) :=
      fun same => .of_eq (setPlain_eq_self same)
    have config : ∀ {offset : Nat} {on : Bool},
        on = anySet (state.config offset) (1#8 <<< port.channel) →
        SameButIndex state (state.setConfig offset
          (switchBits on (1#8 <<< port.channel) (state.config offset))) :=
      fun same => .of_eq
        (setConfig_eq_self (switchBits_shiftedOne_of_anySet same.symm))
    cases setting with
    | rs485 =>
        have mcr : state.setPlain port.channel mcrOffset
            (switchBits (decide (value ≠ 0)) 0x04
              ((state.uart port.channel).plain mcrOffset)) = state :=
          setPlain_eq_self (congrArg PcieView.mcr unchanged)
        rw [CardState.applyPcie, mcr]
        exact plain (congrArg PcieView.fctr unchanged)
    | echoCancel => exact config (congrArg PcieView.echoCancel unchanged)
    | termination => exact config (congrArg PcieView.unterminated unchanged)
    | isochronous | externalTransmit | frameLength => exact .refl state
    | txTrigger =>
        exact (plain (congrArg PcieView.txtrg unchanged)).trans
          (.of_eq (setField_eq_self (congrArg PcieView.fields unchanged)))
    | rxTrigger =>
        exact (plain (congrArg PcieView.rxtrg unchanged)).trans
          (.of_eq (setField_eq_self (congrArg PcieView.fields unchanged)))
    | sampleRate =>
        have mode4x : state.setConfig uartExar4xmode
            (switchBits (decide (value = 4)) (1#8 <<< port.channel)
              (state.config uartExar4xmode)) = state :=
          setConfig_eq_self (switchBits_shiftedOne_of_anySet
            (congrArg PcieView.mode4x unchanged).symm)
        rw [CardState.applyPcie, mode4x]
        exact (config (congrArg PcieView.mode8x unchanged)).trans
          (.of_eq (setField_eq_self (congrArg PcieView.fields unchanged)))

/-! ## Runs -/

section Runs

variable {fsccEnableAsync : Bool} {card : Card} {state : CardState}
  {history : List Event}

def PcieConsistent (card : Card) (state : CardState) : Prop :=
  ∀ channel < card.numPorts, (state.pcieView channel).Consistent

theorem reachable_pcieConsistent (pcie : fastcomGetCardType2 card = .pcie)
    (ports : card.numPorts ≤ 8)
    (reachable : Reachable fsccEnableAsync card state history) :
    PcieConsistent card state := by
  refine reachable.invariant ?_ ?_
  · intro state initialised channel inRange
    rcases initialised_pcie pcie ports initialised inRange with ⟨view, isView⟩
    rw [isView]
    exact view.initialised_consistent
  · intro state event next consistent operates
    exact (operates_pcie_follows pcie ports state event next operates).keeps
      (fun _ _ _ accepted consistent => consistent.set accepted) consistent

end Runs

end SerialFc
