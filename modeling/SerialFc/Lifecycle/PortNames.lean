import SerialFc.Lifecycle.CardLedger
import Mathlib.Data.Nat.Digits.Defs

/-! # Names of ports

The name of a port is printed into a buffer of fixed size, and ends in a minor
number that no removal ever gives back.
-/

namespace SerialFc.Lifecycle

open Kernel

/-! ## Names -/

def deviceName : List Char := "serialfc".toList

def nameSize : Nat := 10

/-- What `sprintf` prints with `"%s%u"`. An `unsigned` has 32 bits. -/
def portName (minorNumber : Nat) : List Char :=
  deviceName ++ Nat.toDigits 10 (minorNumber % 2 ^ 32)

def NameFits (minorNumber : Nat) : Prop :=
  (portName minorNumber).length + 1 ≤ nameSize

theorem nameFits_iff (minorNumber : Nat) :
    NameFits minorNumber ↔ minorNumber % 2 ^ 32 < 10 := by
  have digits := @Nat.length_toDigits_le_iff 10 (minorNumber % 2 ^ 32) 1
    (by decide) (by decide)
  have stem : deviceName.length = 8 := rfl
  rw [Nat.pow_one] at digits
  rw [NameFits, portName, nameSize, List.length_append, stem, ← digits]
  omega

/-! ## Runs -/

inductive CardEvent
  | cardNew (device : PciFunction) (fails : DriverResource → Bool)
  | cardDelete (card : CardRecord)

/-- `serialfc_port_new` begins by allocating the port. -/
def handedMinor : ResourceCall DriverResource → Option Nat
  | .acquire (.portMemory minorNumber) => some minorNumber
  | _ => none

def handedMinors (calls : List (ResourceCall DriverResource)) : List Nat :=
  calls.filterMap handedMinor

/-- The minor numbers handed to `serialfc_port_new` along a run. A fault ends
it. -/
def minorsHanded : List CardEvent → Nat → CardLedger → List Nat
  | [], _, _ => []
  | .cardNew device fails :: later, minorNumber, ledger =>
      let cardNew := serialfcCardNew device minorNumber
      handedMinors ((kernelMachine fails).trace cardNew ledger) ++
        match (kernelMachine fails).run cardNew ledger with
        | (some (_, next), after) => minorsHanded later next after
        | (none, _) => []
  | .cardDelete card :: later, minorNumber, ledger =>
      minorsHanded later minorNumber
        ((kernelMachine fun _ => false).run (serialfcCardDelete card) ledger).2

/-- From a module that was just loaded, whose static variable is zero. -/
def NamesFit (events : List CardEvent) (ledger : CardLedger) : Prop :=
  ∀ minorNumber ∈ minorsHanded events 0 ledger, NameFits minorNumber

/-! ## How many ports -/

section Counts

variable (fails : DriverResource → Bool) (device : PciFunction)
  (minorNumber : Nat)

instance : Decidable (PortTraps fails minorNumber) :=
  inferInstanceAs (Decidable (_ ∧ _))

instance : Decidable (MapsBars fails device) :=
  inferInstanceAs (Decidable (_ ∧ _))

instance : Decidable (AcquiresCard fails device) :=
  inferInstanceAs (Decidable (_ ∧ _))

def loopPorts : Nat → Nat → Nat
  | 0, _ => 0
  | remaining + 1, minorNumber =>
      if PortTraps fails minorNumber then 1
      else loopPorts remaining (minorNumber + 1) + 1

def ReachesLoop : Prop :=
  fails (.cardMemory device.pdev) = false ∧ AcquiresCard fails device

instance : Decidable (ReachesLoop fails device) :=
  inferInstanceAs (Decidable (_ ∧ _))

def cardPorts : Nat :=
  match boardNumPorts device.pciDev.device with
  | none => 0
  | some numPorts =>
      if ReachesLoop fails device then loopPorts fails numPorts minorNumber
      else 0

/-- The call faults, at an error pointer for a device or a null pointer for the
board. -/
def CardTraps : Prop :=
  fails (.cardMemory device.pdev) = false ∧
    match boardNumPorts device.pciDev.device with
    | none => device.cardType = .fscc ∨ MapsBars fails device
    | some numPorts =>
        AcquiresCard fails device ∧
          ∃ channel < numPorts, PortTraps fails (minorNumber + channel)

instance : Decidable (CardTraps fails device minorNumber) := by
  unfold CardTraps
  cases boardNumPorts device.pciDev.device <;> infer_instance

end Counts

def portsHanded : List CardEvent → Nat → Nat
  | [], _ => 0
  | .cardNew device fails :: later, minorNumber =>
      let ports := cardPorts fails device minorNumber
      if CardTraps fails device minorNumber then ports
      else ports + portsHanded later (minorNumber + ports)
  | .cardDelete _ :: later, minorNumber => portsHanded later minorNumber

/-! ## Minor numbers are consecutive -/

section Handed

variable {fails : DriverResource → Bool} (ledger : CardLedger)

theorem handedMinors_of_performs {α : Type} {program : Kernel α}
    (none : program.Performs fun call => handedMinor call = none) :
    handedMinors ((kernelMachine fails).trace program ledger) = [] := by
  apply List.filterMap_eq_nil_iff.mpr
  intro call member
  rcases List.mem_map.mp member with ⟨step, isStep, rfl⟩
  exact (kernelMachine fails).performs_steps none ledger step isStep

theorem handedMinors_bind {α β : Type} (program : Kernel α)
    (continuation : α → Kernel β) :
    handedMinors ((kernelMachine fails).trace (program >>= continuation) ledger) =
      handedMinors ((kernelMachine fails).trace program ledger) ++
        match (kernelMachine fails).run program ledger with
        | (some value, after) =>
            handedMinors ((kernelMachine fails).trace (continuation value) after)
        | (none, _) => [] := by
  rw [Machine.trace_bind, handedMinors, List.filterMap_append]
  rcases (kernelMachine fails).run program ledger with ⟨_ | value, after⟩ <;> rfl

theorem handedMinors_bind_of_performs {α β : Type} (program : Kernel α)
    {continuation : α → Kernel β}
    (none : ∀ value,
      (continuation value).Performs fun call => handedMinor call = none) :
    handedMinors ((kernelMachine fails).trace (program >>= continuation) ledger) =
      handedMinors ((kernelMachine fails).trace program ledger) := by
  rw [handedMinors_bind]
  split
  · rw [handedMinors_of_performs _ (none _), List.append_nil]
  · rw [List.append_nil]

theorem handedMinors_serialfcPortNew (minorNumber : Nat) :
    handedMinors ((kernelMachine fails).trace (serialfcPortNew minorNumber)
      ledger) = [minorNumber] := by
  have allocates : handedMinors ((kernelMachine fails).trace
      (kmalloc (.portMemory minorNumber)) ledger) = [minorNumber] := by
    simp [kmalloc, acquire, Machine.trace, handedMinors, handedMinor]
  rw [serialfcPortNew, handedMinors_bind, allocates, run_kmalloc]
  split
  case h_1 port after run =>
    rw [handedMinors_of_performs]
    · rfl
    · simp [kmalloc, kfree, deviceCreate, deviceDestroy, sysfsCreateGroup,
        cdevAdd, acquire, release, handedMinor]
  case h_2 => rfl

theorem handedMinors_newPorts (remaining minorNumber : Nat) :
    handedMinors ((kernelMachine fails).trace (newPorts remaining minorNumber)
        ledger) =
      List.range' minorNumber (loopPorts fails remaining minorNumber) := by
  induction remaining generalizing minorNumber ledger with
  | zero => rfl
  | succ remaining induction =>
      rw [newPorts, handedMinors_bind, handedMinors_serialfcPortNew, loopPorts]
      by_cases traps : PortTraps fails minorNumber
      · have trapped := run_serialfcPortNew_of_traps ledger traps
        rw [if_pos traps]
        split
        case h_1 port after run =>
          rw [run] at trapped
          cases trapped
        case h_2 => rfl
      · rcases run_serialfcPortNew_of_not_traps ledger traps with
          ⟨port, after, run⟩
        rw [run, if_neg traps, List.range'_succ, ← induction after]
        exact congrArg (List.cons minorNumber)
          (handedMinors_bind_of_performs after _ fun _ => trivial)

theorem next_of_run_newPorts {remaining minorNumber next : Nat}
    {ports : List Nat} {ledger after : CardLedger}
    (run : (kernelMachine fails).run (newPorts remaining minorNumber) ledger =
      (some (ports, next), after)) :
    next = minorNumber + loopPorts fails remaining minorNumber := by
  induction remaining generalizing minorNumber ports ledger after with
  | zero =>
      have same := Option.some.inj (Prod.mk.inj run).1
      exact (Prod.mk.inj same).2.symm
  | succ remaining induction =>
      rw [newPorts, Machine.run_bind] at run
      by_cases traps : PortTraps fails minorNumber
      · have trapped := run_serialfcPortNew_of_traps ledger traps
        split at run
        case h_1 port middle portRun =>
          rw [portRun] at trapped
          cases trapped
        case h_2 => cases run
      · rcases run_serialfcPortNew_of_not_traps ledger traps with
          ⟨port, middle, portRun⟩
        rw [portRun] at run
        simp only [Machine.run_bind] at run
        split at run
        case h_1 result last loopRun =>
          rcases result with ⟨laterPorts, laterNext⟩
          have same := Option.some.inj (Prod.mk.inj run).1
          obtain rfl : laterNext = next := (Prod.mk.inj same).2
          rw [loopPorts, if_neg traps, induction loopRun]
          omega
        case h_2 => cases run

end Handed

/-! ## Cards -/

/-- From here a call goes on like the rest of it from there, having handed out
nothing. -/
structure Continues {α : Type} (fails : DriverResource → Bool)
    (program : Kernel α) (ledger : CardLedger) (rest : Kernel α)
    (after : CardLedger) : Prop where
  run : (kernelMachine fails).run program ledger =
    (kernelMachine fails).run rest after
  handed : handedMinors ((kernelMachine fails).trace program ledger) =
    handedMinors ((kernelMachine fails).trace rest after)

section Continues

variable {fails : DriverResource → Bool} {α β : Type}
  {ledger middle after : CardLedger}

theorem Continues.trans {first second third : Kernel α}
    (early : Continues fails first ledger second middle)
    (late : Continues fails second middle third after) :
    Continues fails first ledger third after :=
  ⟨early.run.trans late.run, early.handed.trans late.handed⟩

theorem Continues.bind {program : Kernel α} {continuation : α → Kernel β}
    (hands : program.Performs fun call => handedMinor call = none) {value : α}
    (run : (kernelMachine fails).run program ledger = (some value, after)) :
    Continues fails (program >>= continuation) ledger (continuation value)
      after := by
  constructor
  · rw [Machine.run_bind, run]
  · rw [handedMinors_bind, handedMinors_of_performs ledger hands, run]
    rfl

theorem kmalloc_hands {memory : DriverResource}
    (notPort : handedMinor (.acquire memory) = none) :
    (kmalloc memory).Performs fun call => handedMinor call = none :=
  ⟨notPort, fun _ => trivial⟩

end Continues

section Cards

variable {fails : DriverResource → Bool} {device : PciFunction}
  (minorNumber : Nat) (ledger : CardLedger)

theorem mapBars_hands :
    (mapBars device).Performs fun call => handedMinor call = none :=
  mapBars_performs fun _ => rfl

theorem initSerialPorts_hands :
    (initSerialPorts device).Performs fun call => handedMinor call = none :=
  initSerialPorts_performs device rfl

theorem Continues.memory (memory : fails (.cardMemory device.pdev) = false) :
    Continues fails (serialfcCardNew device minorNumber) ledger
      (do
        let serialPriv ← initSerialPorts device
        if serialPriv = .error then
          pure (none, minorNumber)
        else
          if ← mapBars device then
            finishCard device serialPriv minorNumber
          else
            pure (none, minorNumber))
      (ledger.acquire (.cardMemory device.pdev)) := by
  have allocation := @run_kmalloc fails ledger (.cardMemory device.pdev)
  rw [memory] at allocation
  exact Continues.bind (kmalloc_hands rfl) allocation

theorem Continues.serial (memory : fails (.cardMemory device.pdev) = false)
    {serialPriv : Pointer} {after : CardLedger} (notError : serialPriv ≠ .error)
    (run : (kernelMachine fails).run (initSerialPorts device)
      (ledger.acquire (.cardMemory device.pdev)) = (some serialPriv, after)) :
    Continues fails (serialfcCardNew device minorNumber) ledger
      (do
        if ← mapBars device then
          finishCard device serialPriv minorNumber
        else
          pure (none, minorNumber))
      after := by
  apply (Continues.memory minorNumber ledger memory).trans
  have continues := @Continues.bind fails _ _ _ _ (initSerialPorts device)
    (fun serialPriv => if serialPriv = .error then pure (none, minorNumber)
      else do
        if ← mapBars device then
          finishCard device serialPriv minorNumber
        else
          pure (none, minorNumber)) initSerialPorts_hands _ run
  simp only [if_neg notError] at continues
  exact continues

inductive CardNewCases (fails : DriverResource → Bool) (device : PciFunction)
    (minorNumber : Nat) (ledger : CardLedger) : Prop
  | loop (numPorts : Nat) (serialPriv : Pointer) (after : CardLedger)
      (board : boardNumPorts device.pciDev.device = some numPorts)
      (reaches : ReachesLoop fails device)
      (continues : Continues fails (serialfcCardNew device minorNumber) ledger
        (finishCard device serialPriv minorNumber) after)
  | fault (after : CardLedger)
      (noBoard : boardNumPorts device.pciDev.device = none)
      (traps : CardTraps fails device minorNumber)
      (continues : Continues fails (serialfcCardNew device minorNumber) ledger
        .trap after)
  | noCard (after : CardLedger)
      (noTrap : ¬CardTraps fails device minorNumber)
      (stops : ¬ReachesLoop fails device)
      (continues : Continues fails (serialfcCardNew device minorNumber) ledger
        (pure (none, minorNumber)) after)

theorem cardTraps_iff_of_no_board
    (memory : fails (.cardMemory device.pdev) = false)
    (noBoard : boardNumPorts device.pciDev.device = none) :
    CardTraps fails device minorNumber ↔
      device.cardType = .fscc ∨ MapsBars fails device := by
  rw [CardTraps, noBoard]
  exact and_iff_right memory

theorem not_cardTraps_of_not_acquires {numPorts : Nat}
    (board : boardNumPorts device.pciDev.device = some numPorts)
    (fail : ¬AcquiresCard fails device) :
    ¬CardTraps fails device minorNumber := by
  rw [CardTraps, board]
  exact fun traps => fail traps.2.1

theorem cardNewCases_of_serial
    (memory : fails (.cardMemory device.pdev) = false)
    {serialPriv : Pointer} {middle : CardLedger} (notError : serialPriv ≠ .error)
    (run : (kernelMachine fails).run (initSerialPorts device)
      (ledger.acquire (.cardMemory device.pdev)) = (some serialPriv, middle))
    (serial : device.cardType = .fscc →
      fails (.serialPorts device.pdev) = false)
    (hasBoard : boardNumPorts device.pciDev.device = none →
      device.cardType ≠ .fscc) :
    CardNewCases fails device minorNumber ledger := by
  have early := Continues.serial minorNumber ledger memory notError run
  by_cases maps : MapsBars fails device
  · rcases run_mapBars_of_maps middle maps with ⟨after, mapRun, _⟩
    have continues := early.trans (Continues.bind mapBars_hands mapRun)
    cases board : boardNumPorts device.pciDev.device with
    | some numPorts =>
        exact .loop numPorts serialPriv after board ⟨memory, serial, maps⟩ continues
    | none =>
        apply CardNewCases.fault after board
        · exact (cardTraps_iff_of_no_board minorNumber memory board).mpr (.inr maps)
        · rw [if_pos rfl, finishCard, board] at continues
          exact continues
  · rcases run_mapBars_of_not_maps middle maps with ⟨after, mapRun⟩
    have continues := early.trans (Continues.bind mapBars_hands mapRun)
    apply CardNewCases.noCard after _ (fun reaches => maps reaches.2.2) continues
    cases board : boardNumPorts device.pciDev.device with
    | some numPorts =>
        exact not_cardTraps_of_not_acquires minorNumber board
          fun acquires => maps acquires.2
    | none =>
        rw [cardTraps_iff_of_no_board minorNumber memory board]
        exact not_or.mpr ⟨hasBoard board, maps⟩

theorem cardNewCases_of_fscc
    (memory : fails (.cardMemory device.pdev) = false)
    (fscc : device.cardType = .fscc) :
    CardNewCases fails device minorNumber ledger := by
  cases board : boardNumPorts device.pciDev.device with
  | none =>
      apply CardNewCases.fault _ board
      · exact (cardTraps_iff_of_no_board minorNumber memory board).mpr
          (.inl fscc)
      · have continues := Continues.memory minorNumber ledger memory
        rw [initSerialPorts, if_pos fscc, board] at continues
        exact continues
  | some numPorts =>
      cases serial : fails (.serialPorts device.pdev) with
      | true =>
          have run : (kernelMachine fails).run (initSerialPorts device)
              (ledger.acquire (.cardMemory device.pdev)) =
              (some .error, ledger.acquire (.cardMemory device.pdev)) := by
            simp [initSerialPorts, pciserialInitPorts, fscc, board, serial]
          have fail : ¬AcquiresCard fails device := by
            intro acquires
            rw [acquires.1 fscc] at serial
            cases serial
          apply CardNewCases.noCard _
            (not_cardTraps_of_not_acquires minorNumber board fail)
            (fun reaches => fail reaches.2)
          exact (Continues.memory minorNumber ledger memory).trans
            (Continues.bind initSerialPorts_hands run)
      | false =>
          have run : (kernelMachine fails).run (initSerialPorts device)
              (ledger.acquire (.cardMemory device.pdev)) =
              (some .valid, (ledger.acquire (.cardMemory device.pdev)).acquire
                (.serialPorts device.pdev)) := by
            simp [initSerialPorts, pciserialInitPorts, fscc, board, serial]
          have hasBoard : boardNumPorts device.pciDev.device = none →
              device.cardType ≠ .fscc := by
            intro noBoard
            cases board.symm.trans noBoard
          exact cardNewCases_of_serial minorNumber ledger memory (by decide) run
            (fun _ => serial) hasBoard

theorem cardNewCases (fails : DriverResource → Bool) (device : PciFunction)
    (minorNumber : Nat) (ledger : CardLedger) :
    CardNewCases fails device minorNumber ledger := by
  cases memory : fails (.cardMemory device.pdev) with
  | true =>
      have allocation := @run_kmalloc fails ledger (.cardMemory device.pdev)
      rw [memory] at allocation
      apply CardNewCases.noCard ledger
      · simp [CardTraps, memory]
      · simp [ReachesLoop, memory]
      · exact Continues.bind (kmalloc_hands rfl) allocation
  | false =>
      by_cases fscc : device.cardType = .fscc
      · exact cardNewCases_of_fscc minorNumber ledger memory fscc
      · have run : (kernelMachine fails).run (initSerialPorts device)
            (ledger.acquire (.cardMemory device.pdev)) =
            (some .null, ledger.acquire (.cardMemory device.pdev)) := by
          simp [initSerialPorts, fscc]
        exact cardNewCases_of_serial minorNumber ledger memory (by decide) run
          (fun isFscc => absurd isFscc fscc) (fun _ => fscc)

/-! ## What one call hands out -/

section Calls

variable (fails : DriverResource → Bool) (device : PciFunction)
  (minorNumber : Nat) (ledger : CardLedger)

theorem cardPorts_of_stops (stops : ¬ReachesLoop fails device) :
    cardPorts fails device minorNumber = 0 := by
  rw [cardPorts]
  cases boardNumPorts device.pciDev.device with
  | none => rfl
  | some numPorts => exact if_neg stops

theorem handedMinors_serialfcCardNew :
    handedMinors ((kernelMachine fails).trace (serialfcCardNew device minorNumber)
        ledger) =
      List.range' minorNumber (cardPorts fails device minorNumber) := by
  cases cardNewCases fails device minorNumber ledger with
  | loop numPorts serialPriv after board reaches continues =>
      rw [continues.handed, finishCard, cardPorts, board]
      simp only [if_pos reaches]
      rw [← handedMinors_newPorts after numPorts minorNumber]
      exact handedMinors_bind_of_performs after _ fun _ => trivial
  | fault after noBoard traps continues =>
      rw [continues.handed, cardPorts, noBoard]
      rfl
  | noCard after noTrap stops continues =>
      rw [continues.handed, cardPorts_of_stops fails device minorNumber stops]
      rfl

theorem run_serialfcCardNew_cases :
    (CardTraps fails device minorNumber ∧
      ∃ after, (kernelMachine fails).run (serialfcCardNew device minorNumber)
        ledger = (none, after)) ∨
    (¬CardTraps fails device minorNumber ∧
      ∃ card after, (kernelMachine fails).run
        (serialfcCardNew device minorNumber) ledger =
          (some (card, minorNumber + cardPorts fails device minorNumber),
            after)) := by
  cases cardNewCases fails device minorNumber ledger with
  | loop numPorts serialPriv middle board reaches continues =>
      have trapsIff : CardTraps fails device minorNumber ↔
          SomePortTraps fails minorNumber numPorts := by
        rw [CardTraps, board]
        exact (and_iff_right reaches.1).trans (and_iff_right reaches.2)
      rw [trapsIff, continues.run, finishCard, board]
      rcases run_finishCard_cases fails device minorNumber numPorts serialPriv
        middle with ⟨traps, trapped⟩ | ⟨noTrap, ports, next, after, success, loop⟩
      · exact .inl ⟨traps, _, Prod.ext trapped rfl⟩
      · right
        have isNext : next = minorNumber + cardPorts fails device minorNumber := by
          rw [next_of_run_newPorts loop, cardPorts, board]
          simp only [if_pos reaches]
        rw [isNext] at success
        exact ⟨noTrap, _, after, success⟩
  | fault after noBoard traps continues =>
      exact .inl ⟨traps, after, continues.run⟩
  | noCard after noTrap stops continues =>
      right
      refine ⟨noTrap, none, after, continues.run.trans ?_⟩
      rw [cardPorts_of_stops fails device minorNumber stops]
      rfl

end Calls

end Cards

/-! ## Whole runs -/

theorem minorsHanded_eq (events : List CardEvent) (minorNumber : Nat)
    (ledger : CardLedger) :
    minorsHanded events minorNumber ledger =
      List.range' minorNumber (portsHanded events minorNumber) := by
  induction events generalizing minorNumber ledger with
  | nil => rfl
  | cons event later induction =>
      cases event with
      | cardDelete card => exact induction minorNumber _
      | cardNew device fails =>
          rw [minorsHanded, handedMinors_serialfcCardNew, portsHanded]
          rcases run_serialfcCardNew_cases fails device minorNumber ledger with
            ⟨traps, after, run⟩ | ⟨noTrap, card, after, run⟩
          · simp only [run, if_pos traps, List.append_nil]
          · simp only [run, if_neg noTrap, induction]
            exact List.range'_append_1

/-- The names of all ports fit exactly if there are ten of them at most, counted
over all cards that come to the loop since the module was loaded. -/
theorem namesFit_iff (events : List CardEvent) (ledger : CardLedger) :
    NamesFit events ledger ↔ portsHanded events 0 ≤ 10 := by
  rw [NamesFit, minorsHanded_eq]
  constructor
  · intro fit
    by_contra many
    have eleventh : 10 ∈ List.range' 0 (portsHanded events 0) :=
      List.mem_range'_1.mpr (by omega)
    exact absurd ((nameFits_iff 10).mp (fit 10 eleventh)) (by decide)
  · intro few minorNumber member
    have range := List.mem_range'_1.mp member
    rw [nameFits_iff, Nat.mod_eq_of_lt (by omega)]
    omega

def sixRounds : List CardEvent :=
  (List.range 6).flatMap fun round =>
    [.cardNew (fsccFunction 0) (fun _ => false),
      .cardDelete ⟨0, .valid, [2 * round, 2 * round + 1]⟩]

/-- The last two names are too long. -/
theorem not_namesFit : ¬NamesFit sixRounds (fun _ => 0) := by
  intro fit
  have eleventh : 10 ∈ minorsHanded sixRounds 0 (fun _ => 0) := by
    rw [minorsHanded_eq]
    decide
  exact absurd ((nameFits_iff 10).mp (fit 10 eleventh)) (by decide)

end SerialFc.Lifecycle
