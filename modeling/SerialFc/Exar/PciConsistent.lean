import SerialFc.Exar.PcieConsistent
import SerialFc.Exar.PciPins

/-! # Registers and shadows of a PCI port

In every reachable state the registers of a port hold what its settings stand
for, on boards of any size, but for the RS485 pins of the channels from 4
upwards.
-/

namespace SerialFc

def PciHolds (state : CardState) (channel : Nat) : Setting → Prop
  | .rs485 => channel < 4 → ∃ enabled, PciRs485 state channel enabled
  | .txTrigger =>
      ((state.uart channel).plain uartExarTxtrg).setWidth 32 =
        (state.fields channel).txTrigger
  | .rxTrigger =>
      ((state.uart channel).plain uartExarRxtrg).setWidth 32 =
        (state.fields channel).rxTrigger
  | .sampleRate =>
      let mode8x := anySet (state.config uartExar8xmode) (1#8 <<< channel)
      ((state.fields channel).sampleRate = 8 ∧ mode8x = true) ∨
        ((state.fields channel).sampleRate = 16 ∧ mode8x = false)
  | .echoCancel | .termination | .isochronous | .externalTransmit
  | .frameLength => True

section Settings

variable {state : CardState} {port : Port} {value : BitVec 32}

theorem applyPci_establishes (small : port.channel < 8) {setting : Setting}
    (accepted : PciAccepts value setting) :
    PciHolds (state.applyPci port value setting) port.channel setting := by
  cases setting with
  | rs485 =>
      intro low
      exact ⟨_, applyPci_rs485 low value⟩
  | txTrigger | rxTrigger =>
      have stored : (value.setWidth 8).setWidth 32 = value := by
        simp only [PciAccepts] at accepted
        bv_omega
      simpa only [PciHolds, CardState.applyPci, CardState.setPlain,
        CardState.setField, PortFields.set, Function.update_self] using stored
  | sampleRate =>
      have switched := anySet_switchBits (decide (value = 8))
        (shiftedOne_ne_zero small) (state.config uartExar8xmode)
      have rates : value = 8 ∨ value = 16 := by
        simpa only [PciAccepts, ne_eq, not_and_or, not_not] using accepted
      simp only [PciHolds, CardState.applyPci, CardState.setConfig,
        CardState.setField, PortFields.set, Function.update_self, switched]
      rcases rates with rfl | rfl
      · exact .inl ⟨rfl, rfl⟩
      · exact .inr ⟨rfl, rfl⟩
  | echoCancel | termination | isochronous => trivial
  | externalTransmit | frameLength => trivial

theorem applyPci_of_ne {channel : Nat} (different : channel ≠ port.channel)
    (setting : Setting) :
    (state.applyPci port value setting).uart channel = state.uart channel ∧
      (state.applyPci port value setting).fields channel =
        state.fields channel := by
  cases setting <;>
    simp [CardState.applyPci, CardState.setPlain, CardState.setConfig,
      CardState.setField, different]

/-! What a setting leaves is reached by no set of another setting. -/

section Frame

variable {channel : Nat} {other : Setting}

theorem applyPci_txTrigger_of_ne
    (foreign : ¬(other = .txTrigger ∧ port.channel = channel)) :
    ((state.applyPci port value other).uart channel).plain uartExarTxtrg =
        (state.uart channel).plain uartExarTxtrg ∧
      ((state.applyPci port value other).fields channel).txTrigger =
        (state.fields channel).txTrigger := by
  by_cases own : channel = port.channel
  · subst own
    cases other with
    | txTrigger => exact absurd ⟨rfl, rfl⟩ foreign
    | _ =>
        simp [CardState.applyPci, CardState.setPlain, CardState.setConfig,
          CardState.setField, PortFields.set, uartExarTxtrg, uartExarRxtrg,
          uartExarFctr]
  · rcases @applyPci_of_ne state port value channel own other with
      ⟨uart, fields⟩
    rw [uart, fields]
    exact ⟨rfl, rfl⟩

theorem applyPci_rxTrigger_of_ne
    (foreign : ¬(other = .rxTrigger ∧ port.channel = channel)) :
    ((state.applyPci port value other).uart channel).plain uartExarRxtrg =
        (state.uart channel).plain uartExarRxtrg ∧
      ((state.applyPci port value other).fields channel).rxTrigger =
        (state.fields channel).rxTrigger := by
  by_cases own : channel = port.channel
  · subst own
    cases other with
    | rxTrigger => exact absurd ⟨rfl, rfl⟩ foreign
    | _ =>
        simp [CardState.applyPci, CardState.setPlain, CardState.setConfig,
          CardState.setField, PortFields.set, uartExarTxtrg, uartExarRxtrg,
          uartExarFctr]
  · rcases @applyPci_of_ne state port value channel own other with
      ⟨uart, fields⟩
    rw [uart, fields]
    exact ⟨rfl, rfl⟩

theorem applyPci_mode8x_of_ne
    (foreign : ¬(other = .sampleRate ∧ port.channel = channel)) :
    anySet ((state.applyPci port value other).config uartExar8xmode)
        (1#8 <<< channel) =
      anySet (state.config uartExar8xmode) (1#8 <<< channel) := by
  cases other with
  | sampleRate =>
      have different : port.channel ≠ channel := fun own => foreign ⟨rfl, own⟩
      have bit := anySet_switchBits_of_disjoint (decide (value = 8))
        (shiftedOne_disjoint different) (state.config uartExar8xmode)
      simpa [CardState.applyPci, CardState.setConfig, CardState.setField]
        using bit
  | _ =>
      simp [CardState.applyPci, CardState.setPlain, CardState.setConfig,
        CardState.setField, mpiolvlOffset, uartExar8xmode]

theorem applyPci_sampleRate_of_ne
    (foreign : ¬(other = .sampleRate ∧ port.channel = channel)) :
    ((state.applyPci port value other).fields channel).sampleRate =
      (state.fields channel).sampleRate := by
  by_cases own : channel = port.channel
  · subst own
    cases other with
    | sampleRate => exact absurd ⟨rfl, rfl⟩ foreign
    | _ =>
        simp [CardState.applyPci, CardState.setPlain, CardState.setConfig,
          CardState.setField, PortFields.set]
  · rw [(@applyPci_of_ne state port value channel own other).2]

theorem applyPci_keeps {setting : Setting}
    (foreign : ¬(other = setting ∧ port.channel = channel))
    (holds : PciHolds state channel setting) :
    PciHolds (state.applyPci port value other) channel setting := by
  cases setting with
  | rs485 =>
      intro low
      rcases holds low with ⟨enabled, pins⟩
      exact ⟨enabled, applyPci_keeps_rs485 low value foreign pins⟩
  | txTrigger =>
      rcases @applyPci_txTrigger_of_ne state port value channel other foreign
        with ⟨register, field⟩
      rw [PciHolds, register, field]
      exact holds
  | rxTrigger =>
      rcases @applyPci_rxTrigger_of_ne state port value channel other foreign
        with ⟨register, field⟩
      rw [PciHolds, register, field]
      exact holds
  | sampleRate =>
      simp only [PciHolds, applyPci_mode8x_of_ne foreign,
        applyPci_sampleRate_of_ne foreign]
      exact holds
  | echoCancel | termination | isochronous => trivial
  | externalTransmit | frameLength => trivial

end Frame

end Settings

/-! ## Initialisation -/

section Initialisation

variable {port : Port} (small : port.channel < 8) {channel : Nat}
  {setting : Setting} {state : CardState}
include small

theorem settlePci_pciHolds {changed : Setting} {value : BitVec 32}
    (already : PciHolds state channel setting ∨
      port.channel = channel ∧ changed = setting ∧ PciAccepts value changed) :
    PciHolds (state.settlePci port value changed) channel setting := by
  unfold CardState.settlePci
  split
  case isTrue accepted =>
    by_cases own : changed = setting ∧ port.channel = channel
    · rcases own with ⟨rfl, rfl⟩
      exact applyPci_establishes small accepted
    · rcases already with holds | ⟨isChannel, isSetting, _⟩
      · exact applyPci_keeps own holds
      · exact absurd ⟨isSetting, isChannel⟩ own
  case isFalse refused =>
    rcases already with holds | ⟨_, _, accepted⟩
    · exact holds
    · exact absurd accepted refused

theorem settleAll_pciHolds (settings : List (Setting × BitVec 32))
    (already : PciHolds state channel setting ∨ port.channel = channel ∧
      ∃ value, (setting, value) ∈ settings ∧ PciAccepts value setting) :
    PciHolds (settings.foldl
      (fun state default => state.settlePci port default.2 default.1) state)
      channel setting := by
  induction settings generalizing state with
  | nil =>
      rcases already with holds | ⟨_, value, member, _⟩
      · exact holds
      · cases member
  | cons first later induction =>
      apply induction
      rcases already with holds | ⟨own, value, member, accepted⟩
      · exact .inl (settlePci_pciHolds small (.inl holds))
      · rcases List.mem_cons.mp member with rfl | isLater
        · exact .inl (settlePci_pciHolds small (.inr ⟨own, rfl, accepted⟩))
        · exact .inr ⟨own, value, isLater, accepted⟩

theorem defaults_pciHolds (state : CardState) (setting : Setting) :
    PciHolds (defaultSettings.foldl
      (fun state default => state.settlePci port default.2 default.1) state)
      port.channel setting := by
  cases setting with
  | rs485 =>
      exact settleAll_pciHolds small _ (.inr ⟨rfl, defaultRs485,
        by simp [defaultSettings], trivial⟩)
  | txTrigger =>
      exact settleAll_pciHolds small _ (.inr ⟨rfl, defaultTxTriggerLevel,
        by simp [defaultSettings], by decide⟩)
  | rxTrigger =>
      exact settleAll_pciHolds small _ (.inr ⟨rfl, defaultRxTriggerLevel,
        by simp [defaultSettings], by decide⟩)
  | sampleRate =>
      exact settleAll_pciHolds small _ (.inr ⟨rfl, defaultSampleRate,
        by simp [defaultSettings], by decide⟩)
  | echoCancel | termination | isochronous => trivial
  | externalTransmit | frameLength => trivial

end Initialisation

/-! ## Runs -/

section Runs

variable {fsccEnableAsync : Bool} {card : Card} {state : CardState}
  {history : List Event}

def PciConsistent (card : Card) (state : CardState) : Prop :=
  ∀ channel < card.numPorts, ∀ setting, PciHolds state channel setting

theorem reachable_pciConsistent (pci : fastcomGetCardType2 card = .pci)
    (ports : card.numPorts ≤ 8)
    (reachable : Reachable fsccEnableAsync card state history) :
    PciConsistent card state := by
  refine reachable.invariant ?_ ?_
  · rintro state ⟨before, run⟩ channel inRange
    refine serialfcCardPorts_establishes
      (fun channel state => ∀ setting, PciHolds state channel setting)
      ?_ ?_ run inRange
    · intro channel inRange state next run setting
      have small : channel < 8 := Nat.lt_of_lt_of_le inRange ports
      have isPci : fastcomGetCardType ⟨card, channel⟩ = .pci := pci
      rcases run_serialfcPortNew_pci isPci fsccEnableAsync state with
        ⟨armed, _, _, _, _, settled⟩
      rw [Card.machine, pci, settled] at run
      rcases Prod.mk.inj run with ⟨_, rfl⟩
      exact @defaults_pciHolds ⟨card, channel⟩ small armed setting
    · intro channel inRange other _ different state next run holds setting
      have small : channel < 8 := Nat.lt_of_lt_of_le inRange ports
      have isPci : fastcomGetCardType ⟨card, channel⟩ = .pci := pci
      rcases run_serialfcPortNew_pci isPci fsccEnableAsync state with
        ⟨armed, mpiolvl, mode8x, fields, uarts, settled⟩
      rw [Card.machine, pci, settled] at run
      rcases Prod.mk.inj run with ⟨_, rfl⟩
      have armedHolds : PciHolds armed other setting ↔
          PciHolds state other setting := by
        cases setting <;>
          simp only [PciHolds, PciRs485, mpiolvl, mode8x, fields,
            uarts other different]
      exact @settleAll_pciHolds ⟨card, channel⟩ small other setting armed _
        (.inl (armedHolds.mpr (holds setting)))
  · intro state event next consistent operates channel inRange setting
    have small : event.channel < 8 := Nat.lt_of_lt_of_le operates.1 ports
    have holds := consistent channel inRange setting
    rcases operates_pci pci operates with
      ⟨changed, value, _, accepted, rfl⟩ | ⟨_, rfl⟩
    · by_cases own : changed = setting ∧ event.channel = channel
      · rcases own with ⟨rfl, rfl⟩
        exact @applyPci_establishes state ⟨card, event.channel⟩ value small
          changed accepted
      · exact applyPci_keeps own holds
    · exact holds

end Runs

/-! ## Setting what is set -/

theorem SameButIndex.getPci {before after : CardState}
    (same : SameButIndex before after) (channel : Nat) (value : BitVec 32)
    (setting : Setting) :
    after.getPci channel value setting = before.getPci channel value setting := by
  cases setting <;>
    simp only [CardState.getPci, same.plain, same.config, same.fields]

section Unchanged

variable {state : CardState} {port : Port} {value before : BitVec 32}
  {setting : Setting}

/-- A setting reads back on its own port, also where the pins overlap. -/
theorem getPci_applyPci (accepted : PciAccepts value setting) :
    (state.applyPci port value setting).getPci port.channel before setting =
      (0, setting.denote value) := by
  cases setting with
  | rs485 =>
      have auto := anySet_switchBits (decide (value ≠ 0))
        (show (0x20 : BitVec 8) ≠ 0#8 by decide)
        ((state.uart port.channel).plain uartExarFctr)
      simp only [CardState.getPci, CardState.applyPci, CardState.setPlain,
        CardState.setConfig, Function.update_self, auto, Setting.denote,
        decide_eq_true_eq]
  | echoCancel =>
      have pin := anySet_switchBits (decide (value ≠ 0))
        (show (0x80 : BitVec 8) ≠ 0#8 by decide) (state.config mpiolvlOffset)
      simp only [CardState.getPci, CardState.applyPci, CardState.setConfig,
        Function.update_self, pin, Setting.denote, decide_eq_true_eq]
  | termination => cases accepted
  | isochronous => cases accepted
  | externalTransmit => cases accepted
  | frameLength => cases accepted
  | txTrigger | rxTrigger | sampleRate =>
      simp [CardState.getPci, CardState.applyPci, CardState.setField,
        PortFields.set, Setting.denote]

/-- The driver enable of channel 4, which is echo cancel as well, agrees with
the auto-RS485 bit. -/
def EchoPinAgrees (state : CardState) (channel : Nat) : Prop :=
  channel = 4 →
    anySet (state.config mpiolvlOffset) 0x80 =
      !anySet ((state.uart channel).plain uartExarFctr) 0x20

/-- The driver enable is where the auto-RS485 bit says, or cannot be moved. -/
theorem transmitterPin_unchanged (small : port.channel < 8)
    (holds : PciHolds state port.channel .rs485)
    (agrees : EchoPinAgrees state port.channel)
    (reported : anySet ((state.uart port.channel).plain uartExarFctr) 0x20 =
      decide (value ≠ 0)) :
    switchBits (decide (value = 0)) (0x8#8 <<< port.channel)
        (state.config mpiolvlOffset) = state.config mpiolvlOffset := by
  have asked : decide (value = 0) = !decide (value ≠ 0) := by simp
  by_cases low : port.channel < 4
  · rcases holds low with ⟨enabled, pin, auto⟩
    rw [transmitterMask_eq] at pin ⊢
    apply switchBits_shiftedOne_of_anySet
    rw [pin, ← auto, reported, asked]
  · by_cases isFour : port.channel = 4
    · have pin := agrees isFour
      rw [isFour]
      apply switchBits_shiftedOne_of_anySet (show
        anySet (state.config mpiolvlOffset) (1#8 <<< 7) = _ from ?_)
      rw [asked, ← reported]
      exact pin
    · rw [transmitterMask_eq_zero (by omega)]
      apply switchBits_eq_self
      simp

theorem echoPinAgrees_of_unchanged
    (same : SameButIndex state (state.applyPci port value .rs485)) :
    EchoPinAgrees state port.channel := by
  intro isFour
  have pin := anySet_switchBits (decide (value = 0))
    (show (0x80 : BitVec 8) ≠ 0#8 by decide) (state.config mpiolvlOffset)
  have auto := anySet_switchBits (decide (value ≠ 0))
    (show (0x20 : BitVec 8) ≠ 0#8 by decide)
    ((state.uart port.channel).plain uartExarFctr)
  have mpiolvl : switchBits (decide (value = 0)) 0x80
      (state.config mpiolvlOffset) = state.config mpiolvlOffset := by
    have kept := congrFun same.config mpiolvlOffset
    simp only [CardState.applyPci, CardState.setPlain, CardState.setConfig,
      Function.update_self, isFour] at kept
    exact kept
  have fctr : switchBits (decide (value ≠ 0)) 0x20
      ((state.uart port.channel).plain uartExarFctr) =
        (state.uart port.channel).plain uartExarFctr := by
    have kept := congrFun (same.plain port.channel) uartExarFctr
    simpa only [CardState.applyPci, CardState.setPlain, CardState.setConfig,
      Function.update_self] using kept
  rw [mpiolvl] at pin
  rw [fctr] at auto
  rw [pin, auto]
  simp

theorem register_of_level {register : BitVec 8} {level : BitVec 32}
    (shadowed : register.setWidth 32 = level) :
    level.setWidth 8 = register := by
  rw [← shadowed]
  bv_omega

theorem applyPci_eq_self (small : port.channel < 8)
    (holds : ∀ setting, PciHolds state port.channel setting)
    (answer : (state.getPci port.channel before setting).2 =
      setting.denote value)
    (agrees : setting = .rs485 → EchoPinAgrees state port.channel) :
    state.applyPci port value setting = state := by
  cases setting with
  | rs485 =>
      have isOn := Setting.switch_of_report answer
      have pin := transmitterPin_unchanged small (holds .rs485) (agrees rfl) isOn
      have auto := switchBits_shiftedOne_of_anySet (show
        anySet ((state.uart port.channel).plain uartExarFctr) (1#8 <<< 5) =
          decide (value ≠ 0) from isOn)
      rw [CardState.applyPci, setConfig_eq_self pin]
      exact setPlain_eq_self auto
  | echoCancel =>
      have isOn := Setting.switch_of_report answer
      have pin := switchBits_shiftedOne_of_anySet (show
        anySet (state.config mpiolvlOffset) (1#8 <<< 7) = decide (value ≠ 0)
          from isOn)
      exact setConfig_eq_self pin
  | termination | isochronous | externalTransmit | frameLength => rfl
  | txTrigger =>
      obtain rfl : (state.fields port.channel).txTrigger = value := answer
      rw [CardState.applyPci,
        setPlain_eq_self (register_of_level (holds .txTrigger))]
      exact setField_eq_self rfl
  | rxTrigger =>
      obtain rfl : (state.fields port.channel).rxTrigger = value := answer
      rw [CardState.applyPci,
        setPlain_eq_self (register_of_level (holds .rxTrigger))]
      exact setField_eq_self rfl
  | sampleRate =>
      obtain rfl : (state.fields port.channel).sampleRate = value := answer
      have mode8x : anySet (state.config uartExar8xmode)
          (1#8 <<< port.channel) =
            decide ((state.fields port.channel).sampleRate = 8) := by
        rcases holds .sampleRate with ⟨rate, mode⟩ | ⟨rate, mode⟩
        · rw [rate]
          exact mode
        · rw [rate]
          exact mode
      rw [CardState.applyPci,
        setConfig_eq_self (switchBits_shiftedOne_of_anySet mode8x)]
      exact setField_eq_self rfl

theorem sameButIndex_applyPci_iff (small : port.channel < 8)
    (holds : ∀ setting, PciHolds state port.channel setting)
    (accepted : PciAccepts value setting) :
    SameButIndex state (state.applyPci port value setting) ↔
      state.getPci port.channel before setting = (0, setting.denote value) ∧
        (setting = .rs485 → EchoPinAgrees state port.channel) := by
  constructor
  · intro same
    refine ⟨?_, ?_⟩
    · rw [← same.getPci, getPci_applyPci accepted]
    · rintro rfl
      exact echoPinAgrees_of_unchanged same
  · rintro ⟨reported, agrees⟩
    apply SameButIndex.of_eq
    exact applyPci_eq_self small holds (congrArg Prod.snd reported) agrees

end Unchanged

end SerialFc
