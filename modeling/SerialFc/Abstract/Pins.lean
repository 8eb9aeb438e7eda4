import Mathlib.Tactic.IntervalCases
import SerialFc.Foundation.Transmission
import SerialFc.Foundation.Wires
import SerialFc.Abstract.Tasks
import SerialFc.Interface.UserCopy

/-! # The pins that ports share

Transceivers and clock generators hang on the bits of registers that all ports of a
card share, and calls on the ports read, change and write back whole registers. At
every access of every call a pin is where it was or where the call drives it.
-/

namespace SerialFc

/-! ## Pins -/

/-- A bit of the device configuration registers of an Exar card, or of FCR. -/
inductive Pin
  | config (offset position : Nat)
  | fcr (position : Nat)
  deriving DecidableEq

def CardState.level (state : CardState) : Pin → Bool
  | .config offset position => (state.config offset).getLsbD position
  | .fcr position => state.fcr.getLsbD position

def Operation.pins (port : Port) (operation : Operation) : List (Pin × Bool) :=
  match fastcomGetCardType port, operation with
  -- The driver enables are active low. That of the fifth port is echo cancel.
  | .pci, .set .rs485 value =>
      if port.channel < 5 then
        [(.config mpiolvlOffset (3 + port.channel), decide (value = 0))]
      else []
  | .pci, .set .echoCancel value =>
      [(.config mpiolvlOffset 7, decide (value ≠ 0))]
  | .pci, .set .sampleRate value =>
      if value = 8 ∨ value = 16 then
        [(.config uartExar8xmode port.channel, decide (value = 8))]
      else []
  | .pcie, .set .sampleRate value =>
      if value = 4 ∨ value = 8 ∨ value = 16 then
        [(.config uartExar4xmode port.channel, decide (value = 4)),
          (.config uartExar8xmode port.channel, decide (value = 8))]
      else []
  | .pcie, .set .termination value =>
      [(.config mpiolvlOffset port.channel, decide (value = 0))]
  | .pcie, .set .echoCancel value =>
      [(.config mpiolvlhOffset port.channel, decide (value ≠ 0))]
  | .fscc, .set .rs485 value =>
      [(.fcr (18 + 4 * port.channel), decide (value ≠ 0))]
  | .fscc, .set .echoCancel value =>
      [(.fcr (16 + 4 * port.channel), decide (value ≠ 0))]
  | .fscc, .enableAsyncMode => [(.fcr (24 + port.channel), true)]
  | .fscc, .disableAsyncMode => [(.fcr (24 + port.channel), false)]
  | _, _ => []

/-- The pins that move while a clock word is shifted out. On a PCI card these are
all of MPIOLVL. -/
def Pin.IsClock (type : CardType) : Pin → Prop
  | .config offset _ => type = .pci ∧ offset = mpiolvlOffset
  | .fcr position => type = .fscc ∧ position < 12 ∧ position % 8 < 4

abbrev MovesPin (type : CardType) (driven : List (Pin × Bool)) (pin : Pin)
    (step : CardState × Access) : Prop :=
  (cardMachine type).Drives CardState.level driven pin step

/-! ## Accesses -/

section Accesses

variable {type : CardType} {pin : Pin} {state : CardState} {channel offset position : Nat}

theorem level_write8 (value : BitVec 8) :
    (state.write8 type channel offset value).level pin =
      if type ≠ .fscc ∧ configBase ≤ offset then
        match pin with
        | .config other position =>
            if other = offset then value.getLsbD position else state.level pin
        | .fcr _ => state.level pin
      else state.level pin := by
  by_cases fscc : type = .fscc
  · simp only [fscc, ne_eq, not_true_eq_false, false_and, if_false]
    cases pin <;> rfl
  · rw [write8_exar _ _ fscc]
    by_cases high : configBase ≤ offset
    · simp only [fscc, high, ne_eq, not_false_eq_true, and_self, if_true]
      cases pin with
      | config other position =>
          by_cases same : other = offset <;> simp [CardState.level, same]
      | fcr position => rfl
    · simp only [high, and_false, if_false]
      cases pin <;> rfl

theorem level_execute {access : Access}
    (quiet : access.shared type = true → access.mutates = false) :
    ((cardMachine type).execute state access).2.level pin = state.level pin := by
  cases access with
  | ioread8 | ioread32 | load | loadAcr => rfl
  | iowrite8 channel offset value =>
      have own : ¬(type ≠ .fscc ∧ configBase ≤ offset) := fun shared => by
        cases quiet (byteLocation_shared.mpr shared)
      exact (level_write8 value).trans (if_neg own)
  | iowrite32 bar offset value =>
      cases bar with
      | bar0 => cases pin <;> rfl
      | bar2 => cases quiet rfl
  | store | storeAcr => cases pin <;> rfl

theorem level_setConfig (small : position < 8) (on : Bool) :
    (state.setConfig offset
        (switchBits on (1#8 <<< position) (state.config offset))).level pin =
      if pin = .config offset position then on else state.level pin := by
  cases pin with
  | config other bit =>
      by_cases same : other = offset
      · subst same
        simp [CardState.setConfig, getLsbD_switchBits_shiftedOne on small,
          CardState.level]
      · simp [CardState.setConfig, CardState.level, same]
  | fcr bit => simp [CardState.setConfig, CardState.level]

theorem level_write32 (small : position < 32) (on : Bool) :
    (state.write32 .bar2 offset
        (switchBits on (1#32 <<< position) state.fcr)).level pin =
      if pin = .fcr position then on else state.level pin := by
  cases pin with
  | config other bit => simp [CardState.write32, CardState.level]
  | fcr bit =>
      simp [CardState.write32, CardState.level, getLsbD_switchBits_shiftedOne on small]

end Accesses

/-! ## Programs -/

structure Moves (type : CardType) {α : Type} (program : Driver α)
    (driven : List (Pin × Bool)) (pin : Pin) (state : CardState) : Prop where
  steps : ∀ step ∈ (cardMachine type).steps program state, MovesPin type driven pin step
  run : ∀ value next, (cardMachine type).run program state = (some value, next) →
    next.level pin = (driven.lookup pin).getD (state.level pin)

section Programs

variable {type : CardType} {α β : Type} {program : Driver α}
  {driven : List (Pin × Bool)} {pin : Pin} {state : CardState}

theorem Moves.map (moves : Moves type program driven pin state) (f : α → β) :
    Moves type (f <$> program) driven pin state := by
  constructor
  · rw [Machine.steps_map]
    exact moves.steps
  · intro value next run
    rw [Machine.run_map] at run
    rcases ran : (cardMachine type).run program state with ⟨_ | result, after⟩
    · rw [ran] at run
      cases run
    · rw [ran] at run
      cases run
      exact moves.run result after ran

theorem Moves.of_still
    (still : ∀ step ∈ (cardMachine type).steps program state, MovesPin type [] pin step) :
    Moves type program [] pin state := by
  refine ⟨still, fun value next run => ?_⟩
  have same := Machine.level_run_of_not_driven still fun _ => List.not_mem_nil
  rw [run] at same
  exact same

theorem Moves.of_quiet
    (quiet : program.Performs fun access =>
      access.shared type = true → access.mutates = false) :
    Moves type program [] pin state := by
  apply Moves.of_still
  intro step member
  exact .inl (level_execute ((cardMachine type).performs_steps quiet state step member))

variable {access : Access} {rest : access.Response → Driver α}

theorem Moves.keep
    (keeps : ((cardMachine type).execute state access).2.level pin = state.level pin)
    (later : Moves type (rest ((cardMachine type).execute state access).1) driven pin
      ((cardMachine type).execute state access).2) :
    Moves type (.perform access .done >>= rest) driven pin state := by
  constructor
  · exact Machine.forall_steps_perform.mpr ⟨.inl keeps, later.steps⟩
  · intro value next run
    rw [later.run value next run, keeps]

theorem Moves.drive {driver : Pin} {on : Bool}
    (drives : ((cardMachine type).execute state access).2.level pin =
      if pin = driver then on else state.level pin)
    (later : Moves type (rest ((cardMachine type).execute state access).1) driven pin
      ((cardMachine type).execute state access).2)
    (once : driven.lookup driver = none) :
    Moves type (.perform access .done >>= rest) ((driver, on) :: driven) pin state := by
  constructor
  · refine Machine.forall_steps_perform.mpr ⟨?_, fun step member =>
      (later.steps step member).mono (List.subset_cons_self ..)⟩
    by_cases same : pin = driver
    · rw [if_pos same] at drives
      exact .inr (same ▸ drives ▸ List.mem_cons_self)
    · exact .inl (drives.trans (if_neg same))
  · intro value next run
    rw [later.run value next run, drives]
    by_cases same : pin = driver
    · simp [same, once]
    · have apart : (pin == driver) = false := by simpa using same
      simp [List.lookup_cons, apart, same]

theorem Moves.read (reads : access.mutates = false)
    (later : Moves type (rest ((cardMachine type).execute state access).1) driven pin
      state) :
    Moves type (.perform access .done >>= rest) driven pin state := by
  have same : ((cardMachine type).execute state access).2 = state :=
    keeps_of_not_mutates reads state
  apply Moves.keep (congrArg (CardState.level · pin) same)
  rwa [same]

theorem Moves.already {driver : Pin} {on : Bool} (isThere : state.level driver = on)
    (moves : Moves type program [] pin state) :
    Moves type program [(driver, on)] pin state := by
  constructor
  · exact fun step member => (moves.steps step member).mono (List.nil_subset _)
  · intro value next run
    rw [moves.run value next run]
    by_cases same : pin = driver
    · simp [same, isThere]
    · have apart : (pin == driver) = false := by simpa using same
      simp [List.lookup_cons, apart]

theorem Moves.readConfig (exar : type ≠ .fscc) {port : Port} {offset : Nat}
    (isConfig : IsConfig offset) {rest : BitVec 8 → Driver α}
    (later : Moves type (rest (state.config offset)) driven pin state) :
    Moves type (ioread8 port offset >>= rest) driven pin state := by
  rw [← read8_config state port.channel exar isConfig] at later
  exact Moves.keep rfl later

theorem Moves.readFcr {offset : Nat} {rest : BitVec 32 → Driver α}
    (later : Moves type (rest state.fcr) driven pin state) :
    Moves type (ioread32 .bar2 offset >>= rest) driven pin state :=
  Moves.read rfl later

/-- A bit of a configuration register is switched by writing back what was read. -/
theorem Moves.switchConfig (exar : type ≠ .fscc) {port : Port} {offset position : Nat}
    (isConfig : IsConfig offset) (small : position < 8) {on : Bool}
    {mask byte : BitVec 8} (isMask : mask = 1#8 <<< position)
    (same : byte = state.config offset) {rest : Unit → Driver α}
    (later : Moves type (rest ()) driven pin
      (state.setConfig offset (switchBits on mask byte)))
    (once : driven.lookup (.config offset position) = none) :
    Moves type (iowrite8 port offset (switchBits on mask byte) >>= rest)
      ((.config offset position, on) :: driven) pin state := by
  subst isMask same
  have level := @level_setConfig pin state offset position small on
  rw [← write8_config state port.channel exar isConfig] at later level
  exact Moves.drive level later once

theorem Moves.switchFcr {position offset : Nat} (small : position < 32) {on : Bool}
    {mask word : BitVec 32} (isMask : mask = 1#32 <<< position)
    (same : word = state.fcr) {rest : Unit → Driver α}
    (later : Moves type (rest ()) driven pin
      (state.write32 .bar2 offset (switchBits on mask word)))
    (once : driven.lookup (.fcr position) = none) :
    Moves type (iowrite32 .bar2 offset (switchBits on mask word) >>= rest)
      ((.fcr position, on) :: driven) pin state := by
  subst isMask same
  have level := @level_write32 pin state offset position small on
  exact Moves.drive level later once

end Programs

/-! ## Setters -/

section Setters

variable {port : Port} {pin : Pin} {state : CardState} {w : Nat} (mask word : BitVec w)
  (value : BitVec 32)

theorem ite_eq_switchBits {condition : Prop} [Decidable condition] :
    (if condition then word ||| mask else word &&& ~~~mask) =
      switchBits (decide condition) mask word := by
  simp [switchBits]

theorem ite_eq_switchBits_not {condition : Prop} [Decidable condition] :
    (if condition then word &&& ~~~mask else word ||| mask) =
      switchBits (decide ¬condition) mask word := by
  by_cases holds : condition <;> simp [switchBits, holds]

section Pci

variable (pci : fastcomGetCardType port = .pci)
include pci

theorem moves_setRs485_pci (small : port.channel < 5) :
    Moves .pci (Setting.rs485.set port value)
      [(.config mpiolvlOffset (3 + port.channel), decide (value = 0))] pin state := by
  have isMask : 0x8#8 <<< port.channel = 1#8 <<< (3 + port.channel) := by
    generalize port.channel = channel at small
    interval_cases channel <;> rfl
  simp only [Setting.set, fastcomSetRs485, pci, fastcomSetRs485Pci, bind_assoc,
    ite_eq_switchBits_not, ne_eq, not_not]
  apply Moves.keep rfl
  apply Moves.readConfig (by decide) (by decide)
  exact Moves.switchConfig (by decide) (by decide) (by omega) isMask rfl
    (Moves.of_quiet (by simp [iowrite8, Access.shared, Access.location, byteLocation,
      uartExarFctr, configBase, lcrOffset, Location.shared])) rfl

/-- The driver enables of the other ports are shifted out of the byte. -/
theorem moves_setRs485_pci_of_high (high : 5 ≤ port.channel) :
    Moves .pci (Setting.rs485.set port value) [] pin state := by
  have same : ∀ on, switchBits on (0x8#8 <<< port.channel) (state.config mpiolvlOffset) =
      state.config mpiolvlOffset := by
    intro on
    apply switchBits_eq_self
    rw [transmitterMask_eq_zero high]
    cases on <;> simp
  simp only [Setting.set, fastcomSetRs485, pci, fastcomSetRs485Pci, bind_assoc,
    ite_eq_switchBits_not, ne_eq, not_not]
  apply Moves.read rfl
  apply Moves.readConfig (by decide) (by decide)
  rw [same]
  refine Moves.keep ?_ (Moves.of_quiet (by simp [iowrite8, Access.shared,
    Access.location, byteLocation, uartExarFctr, configBase, lcrOffset,
    Location.shared]))
  simp [cardMachine, setConfig_self]

theorem moves_setEchoCancel_pci :
    Moves .pci (Setting.echoCancel.set port value)
      [(.config mpiolvlOffset 7, decide (value ≠ 0))] pin state := by
  simp only [Setting.set, fastcomSetEchoCancel, pci, fastcomSetEchoCancelPci,
    bind_assoc, ite_eq_switchBits]
  apply Moves.readConfig (by decide) (by decide)
  exact Moves.switchConfig (by decide) (by decide) (by decide) (by decide) rfl
    (Moves.of_quiet (Program.performs_pure _)) rfl

theorem moves_setSampleRate_pci_of_refused (refused : ¬(value = 8 ∨ value = 16)) :
    Moves .pci (Setting.sampleRate.set port value) [] pin state := by
  have outOfRange : value ≠ 8 ∧ value ≠ 16 := not_or.mp refused
  simp only [Setting.set, fastcomSetSampleRate, pci, fastcomSetSampleRatePci,
    if_pos outOfRange]
  exact Moves.of_quiet (by simp [einval])

theorem moves_setSampleRate_pci (small : port.channel < 8)
    (accepted : value = 8 ∨ value = 16) :
    Moves .pci (Setting.sampleRate.set port value)
      [(.config uartExar8xmode port.channel, decide (value = 8))] pin state := by
  have inRange : ¬(value ≠ 8 ∧ value ≠ 16) := by
    simpa only [ne_eq, not_and_or, not_not] using accepted
  simp only [Setting.set, fastcomSetSampleRate, pci, fastcomSetSampleRatePci,
    if_neg inRange, bind_assoc, ite_eq_switchBits]
  apply Moves.readConfig (by decide) (by decide)
  exact Moves.switchConfig (by decide) (by decide) small rfl rfl
    (Moves.of_quiet (by simp [store, Access.shared, Access.location, Location.shared]))
    rfl

end Pci

section Pcie

variable (pcie : fastcomGetCardType port = .pcie) (small : port.channel < 8)
include pcie small

theorem moves_setTermination_pcie :
    Moves .pcie (Setting.termination.set port value)
      [(.config mpiolvlOffset port.channel, decide (value = 0))] pin state := by
  simp only [Setting.set, fastcomSetTermination, pcie, fastcomSetTerminationPcie,
    bind_assoc, ite_eq_switchBits_not, ne_eq, not_not]
  apply Moves.readConfig (by decide) (by decide)
  exact Moves.switchConfig (by decide) (by decide) small rfl rfl
    (Moves.of_quiet (Program.performs_pure _)) rfl

theorem moves_setEchoCancel_pcie :
    Moves .pcie (Setting.echoCancel.set port value)
      [(.config mpiolvlhOffset port.channel, decide (value ≠ 0))] pin state := by
  simp only [Setting.set, fastcomSetEchoCancel, pcie, fastcomSetEchoCancelPcie,
    bind_assoc, ite_eq_switchBits]
  apply Moves.readConfig (by decide) (by decide)
  exact Moves.switchConfig (by decide) (by decide) small rfl rfl
    (Moves.of_quiet (Program.performs_pure _)) rfl

omit small in
theorem moves_setSampleRate_pcie_of_refused
    (refused : ¬(value = 4 ∨ value = 8 ∨ value = 16)) :
    Moves .pcie (Setting.sampleRate.set port value) [] pin state := by
  have outOfRange : value ≠ 4 ∧ value ≠ 8 ∧ value ≠ 16 := by
    simpa only [not_or] using refused
  simp only [Setting.set, fastcomSetSampleRate, pcie, fastcomSetSampleRatePcie,
    if_pos outOfRange]
  exact Moves.of_quiet (by simp [einval])

theorem moves_setSampleRate_pcie (accepted : value = 4 ∨ value = 8 ∨ value = 16) :
    Moves .pcie (Setting.sampleRate.set port value)
      [(.config uartExar4xmode port.channel, decide (value = 4)),
        (.config uartExar8xmode port.channel, decide (value = 8))] pin state := by
  have inRange : ¬(value ≠ 4 ∧ value ≠ 8 ∧ value ≠ 16) := by
    simpa only [ne_eq, not_and_or, not_not] using accepted
  simp only [Setting.set, fastcomSetSampleRate, pcie, fastcomSetSampleRatePcie,
    if_neg inRange, bind_assoc, ite_eq_switchBits]
  apply Moves.readConfig (by decide) (by decide)
  apply Moves.readConfig (by decide) (by decide)
  have apart : uartExar4xmode ≠ uartExar8xmode := by decide
  refine Moves.switchConfig (by decide) (by decide) small rfl rfl ?_ ?_
  · refine Moves.switchConfig (by decide) (by decide) small rfl ?_
      (Moves.of_quiet ?_) rfl
    · simp [CardState.setConfig, Function.update_of_ne apart.symm]
    · simp [store, Access.shared, Access.location, Location.shared]
  · have other : (Pin.config uartExar4xmode port.channel ==
        .config uartExar8xmode port.channel) = false := by
      simp [apart]
    rw [List.lookup_cons, other, List.lookup_nil]

end Pcie

section Fscc

variable (fscc : fastcomGetCardType port = .fscc) (small : port.channel < 2)
include fscc small

theorem moves_setRs485_fscc :
    Moves .fscc (Setting.rs485.set port value)
      [(.fcr (18 + 4 * port.channel), decide (value ≠ 0))] pin state := by
  have isMask : rs485BitMask port.channel = 1#32 <<< (18 + 4 * port.channel) := by
    generalize port.channel = channel at small
    interval_cases channel <;> rfl
  simp only [Setting.set, fastcomSetRs485, fscc, fastcomSetRs485Fscc, bind_assoc,
    ite_eq_switchBits]
  apply Moves.read rfl
  apply Moves.readFcr
  -- Between the two, only the port's own registers and shadow are written.
  iterate 6 refine Moves.keep (level_execute fun shared => by cases shared) ?_
  exact Moves.switchFcr (by omega) isMask
    (by simp [cardMachine, CardState.read32, CardState.write8, CardState.setAcr])
    (Moves.of_quiet (by simp [iowrite8, Access.shared, Access.location, byteLocation,
      Location.shared])) rfl

theorem moves_setEchoCancel_fscc :
    Moves .fscc (Setting.echoCancel.set port value)
      [(.fcr (16 + 4 * port.channel), decide (value ≠ 0))] pin state := by
  have isMask : echoCancelBitMask port.channel = 1#32 <<< (16 + 4 * port.channel) := by
    generalize port.channel = channel at small
    interval_cases channel <;> rfl
  simp only [Setting.set, fastcomSetEchoCancel, fscc, fastcomSetEchoCancelFscc,
    bind_assoc, ite_eq_switchBits]
  apply Moves.readFcr
  exact Moves.switchFcr (by omega) isMask rfl
    (Moves.of_quiet (Program.performs_pure _)) rfl

omit fscc in
theorem asyncMask_eq : 0x01000000#32 <<< port.channel = 1#32 <<< (24 + port.channel) := by
  generalize port.channel = channel at small
  interval_cases channel <;> rfl

theorem moves_enableAsyncMode :
    Moves .fscc (fsccEnableAsyncMode port) [(.fcr (24 + port.channel), true)] pin
      state := by
  have position : 24 + port.channel < 32 := by omega
  have isSet := anySet_shiftedOne position state.fcr
  rw [← asyncMask_eq small] at isSet
  simp only [fsccEnableAsyncMode, fscc, ne_eq, not_true_eq_false, if_false]
  apply Moves.readFcr
  by_cases clear : state.fcr &&& 0x01000000#32 <<< port.channel = 0
  · have word : state.fcr ||| 0x01000000#32 <<< port.channel =
        switchBits true (0x01000000#32 <<< port.channel) state.fcr := rfl
    rw [if_pos clear, word]
    exact Moves.switchFcr position (asyncMask_eq small) rfl
      (Moves.of_quiet (Program.performs_pure _)) rfl
  · have isThere : state.level (.fcr (24 + port.channel)) = true := by
      rw [CardState.level, ← isSet]
      simpa [anySet] using clear
    rw [if_neg clear]
    exact Moves.already isThere (Moves.of_quiet (Program.performs_pure _))

theorem moves_disableAsyncMode :
    Moves .fscc (fsccDisableAsyncMode port) [(.fcr (24 + port.channel), false)] pin
      state := by
  simp only [fsccDisableAsyncMode, fscc, ne_eq, not_true_eq_false, if_false]
  apply Moves.readFcr
  have word : state.fcr &&& ~~~(0x01000000#32 <<< port.channel) =
      switchBits false (0x01000000#32 <<< port.channel) state.fcr := rfl
  rw [word]
  exact Moves.switchFcr (by omega) (asyncMask_eq small) rfl
    (Moves.of_quiet (Program.performs_pure _)) rfl

end Fscc

end Setters

/-! ## Calls -/

section Calls

variable {port : Port} {pin : Pin} {state : CardState}

theorem moves_of_footprint {type : CardType} {α : Type} {program : Driver α}
    {footprint : Footprint} (performs : program.Performs (footprint.Permits type))
    (own : ∀ location ∈ footprint.writes, location.shared = false) :
    Moves type program [] pin state := by
  apply Moves.of_quiet
  apply performs.mono
  rintro access (writes | ⟨reads, _⟩) shared
  · rw [Access.shared, own _ writes] at shared
    cases shared
  · exact reads

theorem moves_set_of_footprint {type : CardType} {setting : Setting}
    (value : BitVec 32) (isType : fastcomGetCardType port = type)
    (own : ∀ location ∈ (setting.setter.footprint port).writes,
      location.shared = false) :
    Moves type (setting.set port value) [] pin state := by
  have performs := set_performs port setting value
  simp only [Operation.program, bind_pure_comp, Program.performs_map, isType] at performs
  exact moves_of_footprint performs own

theorem moves_set (board : boardNumPorts port.card.pciDev.device =
      some port.card.numPorts) (isPort : port.channel < port.card.numPorts)
    (setting : Setting) (value : BitVec 32) :
    Moves (fastcomGetCardType port) (setting.set port value)
      ((Operation.set setting value).pins port) pin state := by
  rcases boardNumPorts_range port.card board with ⟨pciPorts, pciePorts, fsccPorts⟩
  cases type : fastcomGetCardType port with
  | pci =>
      have small : port.channel < 8 := by
        rcases pciPorts type with ports | ports | ports <;> omega
      cases setting with
      | rs485 =>
          simp only [Operation.pins, type]
          split
          case isTrue low => exact moves_setRs485_pci value type low
          case isFalse high =>
            exact moves_setRs485_pci_of_high value type (Nat.le_of_not_lt high)
      | echoCancel =>
          simp only [Operation.pins, type]
          exact moves_setEchoCancel_pci value type
      | sampleRate =>
          simp only [Operation.pins, type]
          split
          case isTrue accepted => exact moves_setSampleRate_pci value type small accepted
          case isFalse refused => exact moves_setSampleRate_pci_of_refused value type refused
      | termination | isochronous | externalTransmit | frameLength | txTrigger
      | rxTrigger =>
          simp only [Operation.pins, type]
          apply moves_set_of_footprint value type
          simp [Setting.setter, Command.footprint, Command.footprintPci, type,
            Footprint.none, Location.shared]
  | pcie =>
      have small : port.channel < 8 := isPort.trans_le (pciePorts type)
      cases setting with
      | termination =>
          simp only [Operation.pins, type]
          exact moves_setTermination_pcie value type small
      | echoCancel =>
          simp only [Operation.pins, type]
          exact moves_setEchoCancel_pcie value type small
      | sampleRate =>
          simp only [Operation.pins, type]
          split
          case isTrue accepted => exact moves_setSampleRate_pcie value type small accepted
          case isFalse refused => exact moves_setSampleRate_pcie_of_refused value type refused
      | rs485 | isochronous | externalTransmit | frameLength | txTrigger
      | rxTrigger =>
          simp only [Operation.pins, type]
          apply moves_set_of_footprint value type
          simp [Setting.setter, Command.footprint, Command.footprintPcie, type,
            Footprint.none, Location.shared]
  | fscc =>
      have small : port.channel < 2 := fsccPorts type ▸ isPort
      cases setting with
      | rs485 =>
          simp only [Operation.pins, type]
          exact moves_setRs485_fscc value type small
      | echoCancel =>
          simp only [Operation.pins, type]
          exact moves_setEchoCancel_fscc value type small
      | termination | isochronous | externalTransmit | frameLength | txTrigger
      | rxTrigger | sampleRate =>
          simp only [Operation.pins, type]
          apply moves_set_of_footprint value type
          simp [Setting.setter, Command.footprint, Command.footprintFscc, type,
            Footprint.none, Location.shared]
  | unknown =>
      exact absurd type (fastcomGetCardType2_known board)

section Getters

attribute [local simp] ioread8 iowrite8 ioread32 load loadAcr Access.mutates
  Access.shared Access.location Location.shared byteLocation

/-- On an FSCC card getters write registers, but none that ports share. -/
theorem moves_get (setting : Setting) (before : BitVec 32) :
    Moves (fastcomGetCardType port) (setting.get port before) [] pin state := by
  apply Moves.of_quiet
  cases type : fastcomGetCardType port with
  | pci | pcie | unknown =>
      cases setting with
      | rs485 => simp [Setting.get, fastcomGetRs485, fastcomGetRs485Pci, type]
      | echoCancel =>
          simp [Setting.get, fastcomGetEchoCancel, fastcomGetEchoCancelPci,
            fastcomGetEchoCancelPcie, type]
      | termination =>
          simp [Setting.get, fastcomGetTermination, fastcomGetTerminationPcie, type]
      | isochronous => simp [Setting.get, fastcomGetIsochronous, type]
      | externalTransmit => simp [Setting.get, fastcomGetExternalTransmit, type]
      | frameLength => simp [Setting.get, fastcomGetFrameLength, type]
      | txTrigger => simp [Setting.get, fastcomGetTxTrigger, type]
      | rxTrigger => simp [Setting.get, fastcomGetRxTrigger, type]
      | sampleRate => simp [Setting.get, fastcomGetSampleRate]
  | fscc =>
      cases setting with
      | rs485 => simp [Setting.get, fastcomGetRs485, fastcomGetRs485Fscc, type]
      | echoCancel =>
          simp [Setting.get, fastcomGetEchoCancel, fastcomGetEchoCancelFscc, type]
      | termination => simp [Setting.get, fastcomGetTermination, type]
      | isochronous =>
          simp [Setting.get, fastcomGetIsochronous, fastcomGetIsochronousFscc, type]
      | externalTransmit =>
          simp [Setting.get, fastcomGetExternalTransmit,
            fastcomGetExternalTransmitFscc, type]
      | frameLength =>
          simp [Setting.get, fastcomGetFrameLength, fastcomGetFrameLengthFscc,
            fsccGetFrev, type]
      | txTrigger =>
          simp [Setting.get, fastcomGetTxTrigger, fastcomGetTxTriggerFscc,
            getTriggerFscc, type]
      | rxTrigger =>
          simp [Setting.get, fastcomGetRxTrigger, fastcomGetRxTriggerFscc,
            getTriggerFscc, type]
      | sampleRate => simp [Setting.get, fastcomGetSampleRate]

end Getters

theorem moves_program (board : boardNumPorts port.card.pciDev.device =
      some port.card.numPorts) (isPort : port.channel < port.card.numPorts)
    {operation : Operation}
    (notClock : ∀ clockData allocated, operation ≠ .setClockBits clockData allocated) :
    Moves (fastcomGetCardType port) (operation.program port) (operation.pins port) pin
      state := by
  cases operation with
  | set setting value =>
      simp only [Operation.program, bind_pure_comp]
      exact (moves_set board isPort setting value).map _
  | get setting before =>
      have none : (Operation.get setting before).pins port = [] := by
        cases type : fastcomGetCardType port <;> simp only [Operation.pins, type]
      rw [none]
      simp only [Operation.program, bind_pure_comp]
      exact (moves_get setting before).map _
  | setClockBits clockData allocated => exact absurd rfl (notClock clockData allocated)
  | enableAsyncMode =>
      simp only [Operation.program, bind_pure_comp]
      apply Moves.map
      cases type : fastcomGetCardType port with
      | fscc =>
          have small : port.channel < 2 :=
            (boardNumPorts_range port.card board).2.2 type ▸ isPort
          simp only [Operation.pins, type]
          exact moves_enableAsyncMode type small
      | pci | pcie | unknown =>
          simp only [Operation.pins, type]
          exact Moves.of_quiet (by simp [fsccEnableAsyncMode, type])
  | disableAsyncMode =>
      simp only [Operation.program, bind_pure_comp]
      apply Moves.map
      cases type : fastcomGetCardType port with
      | fscc =>
          have small : port.channel < 2 :=
            (boardNumPorts_range port.card board).2.2 type ▸ isPort
          simp only [Operation.pins, type]
          exact moves_disableAsyncMode type small
      | pci | pcie | unknown =>
          simp only [Operation.pins, type]
          exact Moves.of_quiet (by simp [fsccDisableAsyncMode, type])
  | setBaudRate value =>
      have none : (Operation.setBaudRate value).pins port = [] := by
        cases type : fastcomGetCardType port <;> simp only [Operation.pins, type]
      have performs := @operation_performs port .setBaudRate value ⟨fun _ => 0, 0⟩ true
        _ rfl
      rw [none]
      apply moves_of_footprint performs
      cases type : fastcomGetCardType port <;>
        simp [Command.footprint, Command.footprintPci, Command.footprintPcie,
          Command.footprintFscc, Footprint.none, Location.shared, type]
  | getBaudRate before =>
      have none : (Operation.getBaudRate before).pins port = [] := by
        cases type : fastcomGetCardType port <;> simp only [Operation.pins, type]
      rw [none]
      simp only [Operation.program, bind_pure_comp]
      apply Moves.map
      cases type : fastcomGetCardType port with
      | pcie =>
          simp only [fastcomGetBaudRate, type]
          apply Moves.of_quiet
          apply pcieGetBaudRate_performs
          · exact fun _ => rfl
          · exact fun _ _ _ => rfl
          · intro offset line value shared
            rw [Access.shared, Access.location, byteLocation_line (by decide) line]
              at shared
            cases shared
      | pci | fscc | unknown => exact Moves.of_quiet (by simp [fastcomGetBaudRate, type])

/-! ### Programming the clock -/

theorem fcrClockData_keeps {channel : Nat} (small : channel < 2)
    (clockData : Fin 20 → BitVec 8) (origFcrValue : BitVec 32) {value : BitVec 32}
    (member : value ∈ fcrClockData channel clockData origFcrValue) :
    value &&& fcrKeepMask = origFcrValue &&& fcrKeepMask := by
  have nonempty : fcrClockData channel clockData origFcrValue ≠ [] :=
    List.ne_nil_of_mem member
  rw [← List.dropLast_append_getLast nonempty] at member
  rcases List.mem_append.mp member with early | isLast
  · rw [fcrClockData_and_of_disjoint
      (by interval_cases channel <;> rfl) (by interval_cases channel <;> rfl)
      (by interval_cases channel <;> rfl) clockData origFcrValue early,
      BitVec.and_assoc, BitVec.and_self]
  · have last := getLast?_fcrClockData channel clockData origFcrValue
    rw [List.getLast?_eq_getLast_of_ne_nil nonempty] at last
    rw [List.mem_singleton.mp isLast, Option.some.inj last]

theorem getLsbD_of_keepMask {position : Nat} (notClock : ¬(Pin.fcr position).IsClock .fscc)
    {value word : BitVec 32} (kept : value &&& fcrKeepMask = word &&& fcrKeepMask) :
    value.getLsbD position = word.getLsbD position := by
  by_cases small : position < 32
  · have selected : fcrKeepMask.getLsbD position = true := by
      have apart : ¬(position < 12 ∧ position % 8 < 4) := fun clock =>
        notClock ⟨rfl, clock⟩
      revert apart
      clear notClock kept
      revert position
      decide
    have atPosition := congrArg (fun word => word.getLsbD position) kept
    simpa [BitVec.getLsbD_and, selected] using atPosition
  · rw [BitVec.getLsbD_of_ge _ _ (Nat.le_of_not_lt small),
      BitVec.getLsbD_of_ge _ _ (Nat.le_of_not_lt small)]

theorem still_iowrite32Rep {data : List (BitVec 32)}
    (shows : ∀ position, pin = .fcr position →
      ∀ word ∈ data, word.getLsbD position = state.level pin) :
    ∀ step ∈ (cardMachine .fscc).steps (iowrite32Rep .bar2 0 data) state,
      MovesPin .fscc [] pin step := by
  induction data generalizing state with
  | nil => exact fun _ absent => by cases absent
  | cons word data induction =>
      have stays : ((cardMachine .fscc).execute state (.iowrite32 .bar2 0 word)).2.level
          pin = state.level pin := by
        cases position : pin with
        | config offset bit => rfl
        | fcr bit =>
            rw [← position, ← shows bit position word (.head _), position]
            rfl
      rw [iowrite32Rep]
      refine Machine.forall_steps_perform.mpr ⟨.inl stays, induction ?_⟩
      intro bit position other member
      rw [stays]
      exact shows bit position other (.tail _ member)

theorem still_setClockBitsFscc (small : port.channel < 2)
    (notClock : ¬pin.IsClock .fscc) (clockData : Fin 20 → BitVec 8) (allocated : Bool) :
    ∀ step ∈ (cardMachine .fscc).steps
      (fastcomSetClockBitsFscc port clockData allocated) state,
      MovesPin .fscc [] pin step := by
  have quiet : (xtalDisabled port).Performs fun access =>
      access.shared .fscc = true → access.mutates = false :=
    xtalDisabled_performs port fun _ => rfl
  rw [fastcomSetClockBitsFscc]
  apply Machine.forall_steps_bind _ (Moves.of_quiet quiet).steps
  intro disabled next run
  rw [run_xtalDisabled] at run
  obtain rfl : state = next := (Prod.mk.inj run).2
  cases allocated with
  | false => exact fun _ absent => by cases absent
  | true =>
      have shows : ∀ position, pin = .fcr position →
          ∀ word ∈ fcrClockData port.channel (forceXtal disabled clockData) state.fcr,
            word.getLsbD position = state.level pin := by
        rintro position rfl word member
        exact getLsbD_of_keepMask notClock (fcrClockData_keeps small _ _ member)
      have reads : (ioread32 .bar2 0).Performs fun access =>
          access.shared .fscc = true → access.mutates = false :=
        ⟨fun _ => rfl, fun _ => trivial⟩
      rw [if_pos rfl]
      apply Machine.forall_steps_bind _ (Moves.of_quiet reads).steps
      intro word later read
      cases read
      apply Machine.forall_steps_bind _ (still_iowrite32Rep shows)
      exact fun _ _ _ _ absent => by cases absent

theorem still_setClockBitsPci (notClock : ¬pin.IsClock .pci) (clockData : BitVec 32) :
    ∀ step ∈ (cardMachine .pci).steps (fastcomSetClockBitsPci port clockData) state,
      MovesPin .pci [] pin step := by
  have others : ∀ channel value, ∀ state : CardState,
      (state.write8 .pci channel mpiolvlOffset value).level pin = state.level pin := by
    intro channel value state
    rw [level_write8, if_pos (by decide)]
    cases pin with
    | config offset position =>
        have apart : offset ≠ mpiolvlOffset := fun same => notClock ⟨rfl, same⟩
        simp only [if_neg apart]
    | fcr position => rfl
  have performs := @setClockBitsPci_performs port
    (fun access => ∀ state,
      ((cardMachine .pci).execute state access).2.level pin = state.level pin)
    (fun _ => rfl) (fun value state => others port.channel value state) clockData
  intro step member
  exact .inl ((cardMachine .pci).performs_steps performs state step member step.1)

theorem pins_setClockBits (clockData : Fin 20 → BitVec 8) (allocated : Bool) :
    (Operation.setClockBits clockData allocated).pins port = [] := by
  cases type : fastcomGetCardType port <;> simp only [Operation.pins, type]

/-- The call does not program the clock, or the pin has no part in that. -/
def Operation.Spares (type : CardType) (pin : Pin) : Operation → Prop
  | .setClockBits .. => ¬pin.IsClock type
  | _ => True

theorem movesPin_steps (board : boardNumPorts port.card.pciDev.device =
      some port.card.numPorts) (isPort : port.channel < port.card.numPorts)
    {operation : Operation} (spares : operation.Spares (fastcomGetCardType port) pin) :
    ∀ step ∈ (cardMachine (fastcomGetCardType port)).steps (operation.program port) state,
      MovesPin (fastcomGetCardType port) (operation.pins port) pin step := by
  cases operation with
  | setClockBits clockData allocated =>
      rw [pins_setClockBits]
      simp only [Operation.program, bind_pure_comp, Machine.steps_map,
        fastcomSetClockBits]
      replace spares : ¬pin.IsClock (fastcomGetCardType port) := spares
      cases type : fastcomGetCardType port with
      | fscc =>
          have small : port.channel < 2 :=
            (boardNumPorts_range port.card board).2.2 type ▸ isPort
          exact still_setClockBitsFscc small (type ▸ spares) clockData allocated
      | pci => exact still_setClockBitsPci (type ▸ spares) (clockWordPci clockData)
      | pcie | unknown => exact fun _ absent => by cases absent
  | set | get | enableAsyncMode | disableAsyncMode | setBaudRate | getBaudRate =>
      apply Moves.steps
      exact moves_program board isPort fun _ _ => Operation.noConfusion

theorem level_of_run (board : boardNumPorts port.card.pciDev.device =
      some port.card.numPorts) (isPort : port.channel < port.card.numPorts)
    {operation : Operation} {reply : Reply} {next : CardState}
    (run : port.card.machine.run (operation.program port) state = (some reply, next)) :
    next.level pin = ((operation.pins port).lookup pin).getD (state.level pin) := by
  cases operation with
  | setClockBits clockData allocated =>
      rcases run_setClockBits port clockData allocated with ⟨status, ran⟩
      rw [Operation.program, bind_pure_comp, Machine.run_map, ran] at run
      cases run
      rw [pins_setClockBits]
      rfl
  | set | get | enableAsyncMode | disableAsyncMode | setBaudRate | getBaudRate =>
      exact (moves_program board isPort fun _ _ => Operation.noConfusion).run reply next
        run

end Calls

/-! ## Runs -/

/-- The port that a pin belongs to, unless all ports share it. -/
def Pin.owner (type : CardType) : Pin → Option Nat
  | .config offset position =>
      if type = .pci ∧ offset = mpiolvlOffset then
        if 3 ≤ position ∧ position < 7 then some (position - 3) else none
      else some position
  | .fcr position =>
      if 24 ≤ position then some (position - 24)
      else if 16 ≤ position then some ((position - 16) / 4)
      else none

theorem owner_of_mem_pins {port : Port} (board : boardNumPorts port.card.pciDev.device =
      some port.card.numPorts) (isPort : port.channel < port.card.numPorts)
    {operation : Operation} {pin : Pin} {on : Bool}
    (driven : (pin, on) ∈ operation.pins port) :
    pin.owner (fastcomGetCardType port) = none ∨
      pin.owner (fastcomGetCardType port) = some port.channel := by
  rcases boardNumPorts_range port.card board with ⟨_, _, fsccPorts⟩
  have high : uartExar8xmode ≠ mpiolvlOffset := by decide
  unfold Operation.pins at driven
  split at driven
  case h_1 =>
    split at driven
    case isTrue low =>
      cases List.mem_singleton.mp driven
      by_cases fifth : port.channel = 4
      · left
        simp [Pin.owner, *]
      · right
        have inside : 3 + port.channel < 7 := by omega
        simp [Pin.owner, *]
    case isFalse => cases driven
  case h_2 =>
    cases List.mem_singleton.mp driven
    left
    simp [Pin.owner, *]
  case h_3 =>
    split at driven
    case isTrue =>
      cases List.mem_singleton.mp driven
      right
      simp [Pin.owner, *]
    case isFalse => cases driven
  case h_4 type =>
    right
    split at driven
    case isTrue =>
      rcases List.mem_cons.mp driven with first | second
      · cases first
        simp [Pin.owner, type]
      · cases List.mem_singleton.mp second
        simp [Pin.owner, type]
    case isFalse => cases driven
  case h_5 type | h_6 type =>
    cases List.mem_singleton.mp driven
    right
    simp [Pin.owner, type]
  case h_7 type | h_8 type =>
    have small : port.channel < 2 := fsccPorts type ▸ isPort
    cases List.mem_singleton.mp driven
    right
    simp only [Pin.owner]
    rw [if_neg (by omega), if_pos (by omega)]
    congr 1
    omega
  case h_9 | h_10 =>
    cases List.mem_singleton.mp driven
    right
    simp [Pin.owner]
  case h_11 => cases driven

theorem lookup_pins_of_owner {port : Port}
    (board : boardNumPorts port.card.pciDev.device = some port.card.numPorts)
    (isPort : port.channel < port.card.numPorts) {operation : Operation} {pin : Pin}
    {channel : Nat} (owned : pin.owner (fastcomGetCardType port) = some channel)
    (other : port.channel ≠ channel) : (operation.pins port).lookup pin = none := by
  rw [List.lookup_eq_none_iff]
  rintro ⟨driven, on⟩ member
  have apart : pin ≠ driven := by
    rintro rfl
    rcases owner_of_mem_pins board isPort member with shared | own
    · rw [owned] at shared
      cases shared
    · rw [owned] at own
      exact other (Option.some.inj own).symm
  simpa using apart

def Event.pins (card : Card) (event : Event) : List (Pin × Bool) :=
  event.operation.pins ⟨card, event.channel⟩

/-- Along a run a pin is where the calls last drove it, the pin of a port where the
calls on that port did. The accesses of the next call leave it there or drive it in
turn, except that programming the clock moves the pins of the clock on the way. -/
theorem pins_follow {card : Card}
    (board : boardNumPorts card.pciDev.device = some card.numPorts)
    {start state : CardState} {history : List Event}
    (run : Run (· = start) (Operates card) state history) (pin : Pin) :
    state.level pin = lastLevel (Event.pins card) pin (start.level pin) history ∧
    (∀ channel, pin.owner (fastcomGetCardType2 card) = some channel →
      state.level pin = lastLevel (Event.pins card) pin (start.level pin)
        (history.filter fun event => event.channel = channel)) ∧
    ∀ channel < card.numPorts, ∀ operation : Operation,
      operation.Spares (fastcomGetCardType2 card) pin →
      ∀ step ∈ card.machine.steps (operation.program ⟨card, channel⟩) state,
        card.machine.Drives CardState.level (operation.pins ⟨card, channel⟩) pin
          step := by
  have follows : state.level pin =
      lastLevel (Event.pins card) pin (start.level pin) history := by
    apply run.level_eq
    · rintro _ rfl
      rfl
    · rintro before event next ⟨inRange, ran⟩
      exact level_of_run board inRange ran
  refine ⟨follows, ?_, ?_⟩
  · intro channel owned
    have inRange := run.forall_events fun _ event _ operates =>
      (operates.1 : event.channel < card.numPorts)
    rw [follows]
    apply (lastLevel_filter _).symm
    intro event member other
    exact lookup_pins_of_owner board (inRange event member) owned
      (of_decide_eq_false other)
  · intro channel inRange operation spares
    exact @movesPin_steps ⟨card, channel⟩ pin state board inRange operation spares

/-- The async mode pin of the second port of an FSCC card stays on while the clock
of the first port is programmed. -/
theorem pins_follow_asyncMode :
    let card := Card.ofDevice fsccId 2
    let history : List Event := [⟨1, .enableAsyncMode, .status 0⟩]
    let clockWord : Operation := .setClockBits (fun _ => 0xff) true
    ∃ state, Run (· = CardState.blank) (Operates card) state history ∧
      state.level (.fcr 25) = true ∧
      ∀ step ∈ card.machine.steps (clockWord.program ⟨card, 0⟩) state,
        card.machine.Drives CardState.level [] (.fcr 25) step := by
  intro card history clockWord
  have board : boardNumPorts card.pciDev.device = some card.numPorts := by
    decide
  have isFscc : fastcomGetCardType ⟨card, 1⟩ = .fscc := rfl
  rcases run_enableAsyncMode isFscc CardState.blank (show 1 < 2 by decide) with
    ⟨state, enables, _⟩
  have operates : Operates card .blank ⟨1, .enableAsyncMode, .status 0⟩ state := by
    refine ⟨by decide, ?_⟩
    rw [Operation.program, bind_pure_comp, Machine.run_map]
    exact congrArg (fun result => (result.1.map Reply.status, result.2)) enables
  have run : Run (· = CardState.blank) (Operates card) state history :=
    .step (.start rfl) operates
  rcases pins_follow board run (.fcr 25) with ⟨_, ofPort, later⟩
  refine ⟨state, run, (ofPort 1 rfl).trans rfl, later 0 (by decide) clockWord ?_⟩
  rintro ⟨_, small, _⟩
  exact absurd small (by decide)

end SerialFc
