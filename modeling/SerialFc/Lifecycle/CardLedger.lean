import SerialFc.Lifecycle.Module

/-! # The ledger of a card

What `serialfc_port_new`, `serialfc_card_new` and the two callbacks leave held,
for every pattern of failing acquisitions.
-/

namespace SerialFc.Lifecycle

open Kernel

abbrev CardLedger := Ledger DriverResource

abbrev kernelMachine (fails : DriverResource → Bool) :
    Machine (ResourceCall DriverResource) ResourceCall.Response CardLedger :=
  ledgerMachine fails

/-- The calls of a callback, carried out. `minorNumber` is the static variable
of `serialfc_card_new` when it is called. -/
def kernelCalls (minorNumber : Nat) : (call : DeviceCall) → Kernel call.Response
  | .pciEnableDevice device => acquire (.enable device.pdev)
  | .pciDisableDevice device => release (.enable device.pdev)
  | .serialfcCardNew device => do
      let (card, _) ← serialfcCardNew device minorNumber
      pure card
  | .serialfcCardDelete card => serialfcCardDelete card

section Statements

variable (fails : DriverResource → Bool) (device : PciFunction)
  (minorNumber numPorts : Nat)

def PortKeepsLedger : Prop :=
  ∀ ledger after,
    (kernelMachine fails).run (serialfcPortNew minorNumber) ledger =
      (some none, after) →
    after = ledger

def CardKeepsLedger : Prop :=
  ∀ ledger next after,
    (kernelMachine fails).run (serialfcCardNew device minorNumber) ledger =
      (some (none, next), after) →
    after = ledger

/-- A probe and the removal after it, where no card of the device is there
before, both return and leave everything as it was. -/
def ProbeKeepsLedger : Prop :=
  ∀ cards ledger, (∀ card ∈ cards, card.pdev ≠ device.pdev) →
    ∃ status probedCards middle removedCards,
      (kernelMachine fails).run
          ((fcProbe device cards).interpret (kernelCalls minorNumber)) ledger =
        (some (status, probedCards), middle) ∧
      (kernelMachine fails).run
          ((fcRemove device probedCards).interpret (kernelCalls minorNumber))
          middle =
        (some removedCards, ledger)

structure KeepsLedger : Prop where
  port : ∀ channel < numPorts, PortKeepsLedger fails (minorNumber + channel)
  card : CardKeepsLedger fails device minorNumber
  probe : ProbeKeepsLedger fails device minorNumber

/-! ## What decides it -/

/-- The port gets its memory, and its device is an error pointer. -/
def PortTraps : Prop :=
  fails (.portMemory minorNumber) = false ∧
    fails (.nameMemory minorNumber) = false ∧
    fails (.deviceNode minorNumber) = true

/-- The port gets as far as its attributes, and these fail. -/
def PortLeaks : Prop :=
  fails (.portMemory minorNumber) = false ∧
    fails (.nameMemory minorNumber) = false ∧
    fails (.deviceNode minorNumber) = false ∧
    fails (.sysfsGroup minorNumber) = true

def MapsBars : Prop :=
  fails (.mapping device.pdev device.addrBar) = false ∧
    (device.cardType = .fscc →
      fails (.mapping device.pdev 0) = false ∧
        fails (.mapping device.pdev 2) = false)

def AcquiresCard : Prop :=
  (device.cardType = .fscc → fails (.serialPorts device.pdev) = false) ∧
    MapsBars fails device

end Statements

/-! ## Ports -/

section Ports

variable {fails : DriverResource → Bool} {minorNumber : Nat}
  (ledger : CardLedger)

theorem run_kmalloc (memory : DriverResource) :
    (kernelMachine fails).run (kmalloc memory) ledger =
      if fails memory then (some .null, ledger)
      else (some .valid, ledger.acquire memory) := by
  cases failed : fails memory <;>
    simp [kmalloc, failed]

theorem run_serialfcPortNew_of_leaks (leaks : PortLeaks fails minorNumber) :
    (kernelMachine fails).run (serialfcPortNew minorNumber) ledger =
      (some none, ((ledger.acquire (.portMemory minorNumber)).acquire
        (.nameMemory minorNumber)).acquire (.deviceNode minorNumber)) := by
  rcases leaks with ⟨memory, name, node, attributes⟩
  simp [serialfcPortNew, Machine.run_bind, run_kmalloc, memory, name,
    deviceCreate, node, sysfsCreateGroup, attributes]

theorem run_serialfcPortNew_of_traps (traps : PortTraps fails minorNumber) :
    ((kernelMachine fails).run (serialfcPortNew minorNumber) ledger).1 =
      none := by
  rcases traps with ⟨memory, name, node⟩
  simp [serialfcPortNew, Machine.run_bind, run_kmalloc, memory, name,
    deviceCreate, node, sysfsCreateGroup]

theorem run_serialfcPortNew (noLeak : ¬PortLeaks fails minorNumber)
    (noTrap : ¬PortTraps fails minorNumber) :
    (kernelMachine fails).run (serialfcPortNew minorNumber) ledger =
        (some none, ledger) ∨
      ∃ after, (kernelMachine fails).run (serialfcPortNew minorNumber) ledger =
        (some (some minorNumber), after) := by
  cases memory : fails (.portMemory minorNumber) with
  | true =>
      left
      simp [serialfcPortNew, Machine.run_bind, run_kmalloc, memory]
  | false =>
      cases name : fails (.nameMemory minorNumber) with
      | true =>
          left
          simp [serialfcPortNew, Machine.run_bind, run_kmalloc, memory, name,
            kfree]
      | false =>
          have node : fails (.deviceNode minorNumber) = false := by
            by_contra failed
            exact noTrap ⟨memory, name, by simpa using failed⟩
          have attributes : fails (.sysfsGroup minorNumber) = false := by
            by_contra failed
            exact noLeak ⟨memory, name, node, by simpa using failed⟩
          cases added : fails (.cdev minorNumber) with
          | true =>
              left
              simp [serialfcPortNew, Machine.run_bind, run_kmalloc, memory, name,
                deviceCreate, node, sysfsCreateGroup, attributes, cdevAdd, added,
                deviceDestroy, kfree]
          | false =>
              right
              simp [serialfcPortNew, Machine.run_bind, run_kmalloc, memory, name,
                deviceCreate, node, sysfsCreateGroup, attributes, cdevAdd, added]

end Ports

theorem portKeepsLedger_iff (fails : DriverResource → Bool)
    (minorNumber : Nat) :
    PortKeepsLedger fails minorNumber ↔ ¬PortLeaks fails minorNumber := by
  constructor
  · intro keeps leaks
    have same := keeps (fun _ => 0) _ (run_serialfcPortNew_of_leaks _ leaks)
    have count := congrFun same (.portMemory minorNumber)
    simp at count
  · intro noLeak ledger after run
    by_cases traps : PortTraps fails minorNumber
    · have trapped := run_serialfcPortNew_of_traps ledger traps
      rw [run] at trapped
      cases trapped
    · rcases run_serialfcPortNew ledger noLeak traps with clean | ⟨_, success⟩
      · rw [run] at clean
        exact congrArg Prod.snd clean
      · rw [run] at success
        cases success

/-! ## The loop over the ports -/

section Loop

variable {fails : DriverResource → Bool} (ledger : CardLedger)

theorem run_serialfcPortNew_of_not_traps {minorNumber : Nat}
    (noTrap : ¬PortTraps fails minorNumber) :
    ∃ port after, (kernelMachine fails).run (serialfcPortNew minorNumber)
      ledger = (some port, after) := by
  by_cases leaks : PortLeaks fails minorNumber
  · exact ⟨_, _, run_serialfcPortNew_of_leaks ledger leaks⟩
  · rcases run_serialfcPortNew ledger leaks noTrap with clean | ⟨_, success⟩
    · exact ⟨_, _, clean⟩
    · exact ⟨_, _, success⟩

theorem run_newPorts_eq_none_iff (remaining minorNumber : Nat) :
    ((kernelMachine fails).run (newPorts remaining minorNumber) ledger).1 =
        none ↔
      ∃ channel < remaining, PortTraps fails (minorNumber + channel) := by
  induction remaining generalizing minorNumber ledger with
  | zero =>
      refine iff_of_false ?_ ?_
      · intro impossible
        cases impossible
      · rintro ⟨channel, impossible, _⟩
        omega
  | succ remaining induction =>
      rw [newPorts, Machine.run_bind]
      by_cases traps : PortTraps fails minorNumber
      · have trapped := run_serialfcPortNew_of_traps ledger traps
        rcases run : (kernelMachine fails).run (serialfcPortNew minorNumber)
          ledger with ⟨value, after⟩
        rw [run] at trapped
        simp only at trapped
        subst trapped
        refine iff_of_true rfl ⟨0, by omega, ?_⟩
        exact traps
      · rcases run_serialfcPortNew_of_not_traps ledger traps with
          ⟨port, after, run⟩
        rw [run]
        simp only [Machine.run_bind]
        have later := induction after (minorNumber + 1)
        rcases laterRun : (kernelMachine fails).run
          (newPorts remaining (minorNumber + 1)) after with ⟨_ | value, last⟩
        · rw [laterRun] at later
          rcases later.mp rfl with ⟨channel, small, channelTraps⟩
          refine iff_of_true rfl ⟨channel + 1, by omega, ?_⟩
          have shifted :
              minorNumber + (channel + 1) = minorNumber + 1 + channel := by
            omega
          rw [shifted]
          exact channelTraps
        · rw [laterRun] at later
          refine iff_of_false ?_ ?_
          · intro impossible
            cases impossible
          · rintro ⟨channel, small, channelTraps⟩
            cases channel with
            | zero => exact traps channelTraps
            | succ channel =>
                have shifted : minorNumber + (channel + 1) =
                    minorNumber + 1 + channel := by
                  omega
                rw [shifted] at channelTraps
                have ended := later.mpr ⟨channel, by omega, channelTraps⟩
                cases ended

end Loop

/-! ## Cards -/

section Cards

variable {fails : DriverResource → Bool} {device : PciFunction}
  (ledger : CardLedger) (minorNumber : Nat)

theorem run_mapBars_of_maps (maps : MapsBars fails device) :
    ∃ after, (kernelMachine fails).run (mapBars device) ledger =
        (some true, after) ∧
      after (.mapping device.pdev device.addrBar) =
        ledger (.mapping device.pdev device.addrBar) + 1 := by
  rcases maps with ⟨addr, others⟩
  by_cases fscc : device.cardType = .fscc
  · rcases others fscc with ⟨bar0, bar2⟩
    have addrBar : device.addrBar = 1 := if_pos fscc
    rw [addrBar] at addr ⊢
    refine ⟨((ledger.acquire (.mapping device.pdev 1)).acquire
      (.mapping device.pdev 0)).acquire (.mapping device.pdev 2), ?_, ?_⟩
    · simp [mapBars, pciIomap, Machine.run_bind, addrBar, addr, fscc, bar0, bar2]
    · simp
  · refine ⟨ledger.acquire (.mapping device.pdev device.addrBar), ?_, ?_⟩
    · simp [mapBars, pciIomap, Machine.run_bind, addr, fscc]
    · simp

theorem mapBars_performs {allowed : ResourceCall DriverResource → Prop}
    (mapping : ∀ bar, allowed (.acquire (.mapping device.pdev bar))) :
    (mapBars device).Performs allowed := by
  simp [mapBars, pciIomap, acquire, mapping]

theorem run_mapBars_of_not_maps (fail : ¬MapsBars fails device) :
    ∃ after, (kernelMachine fails).run (mapBars device) ledger =
      (some false, after) := by
  cases addr : fails (.mapping device.pdev device.addrBar) with
  | true =>
      refine ⟨ledger, ?_⟩
      simp [mapBars, pciIomap, Machine.run_bind, addr]
  | false =>
      have fscc : device.cardType = .fscc := by
        by_contra other
        exact fail ⟨addr, fun isFscc => absurd isFscc other⟩
      cases bar0 : fails (.mapping device.pdev 0) with
      | true =>
          refine ⟨ledger.acquire (.mapping device.pdev device.addrBar), ?_⟩
          simp [mapBars, pciIomap, Machine.run_bind, addr, fscc, bar0]
      | false =>
          cases bar2 : fails (.mapping device.pdev 2) with
          | true =>
              refine ⟨(ledger.acquire (.mapping device.pdev device.addrBar)).acquire
                (.mapping device.pdev 0), ?_⟩
              simp [mapBars, pciIomap, Machine.run_bind, addr, fscc, bar0, bar2]
          | false => exact absurd ⟨addr, fun _ => ⟨bar0, bar2⟩⟩ fail

theorem run_initSerialPorts {numPorts : Nat}
    (board : boardNumPorts device.pciDev.device = some numPorts)
    (serial : device.cardType = .fscc →
      fails (.serialPorts device.pdev) = false) :
    ∃ serialPriv after, serialPriv ≠ .error ∧
      (kernelMachine fails).run (initSerialPorts device) ledger =
        (some serialPriv, after) ∧
      ∀ resource, resource ≠ .serialPorts device.pdev →
        after resource = ledger resource := by
  by_cases fscc : device.cardType = .fscc
  · refine ⟨.valid, ledger.acquire (.serialPorts device.pdev), by decide, ?_, ?_⟩
    · simp [initSerialPorts, pciserialInitPorts, board, fscc, serial fscc]
    · intro resource different
      exact Ledger.acquire_of_ne ledger different
  · refine ⟨.null, ledger, by decide, ?_, fun _ _ => rfl⟩
    simp [initSerialPorts, fscc]

theorem run_serialfcCardNew_of_memory
    (fail : fails (.cardMemory device.pdev) = true) :
    (kernelMachine fails).run (serialfcCardNew device minorNumber) ledger =
      (some (none, minorNumber), ledger) := by
  simp [serialfcCardNew, Machine.run_bind, run_kmalloc, fail]

theorem run_serialfcCardNew_of_serial {serialPriv : Pointer} {after : CardLedger}
    (memory : fails (.cardMemory device.pdev) = false)
    (notError : serialPriv ≠ .error)
    (serialRun : (kernelMachine fails).run (initSerialPorts device)
      (ledger.acquire (.cardMemory device.pdev)) = (some serialPriv, after)) :
    (kernelMachine fails).run (serialfcCardNew device minorNumber) ledger =
      (kernelMachine fails).run (do
        if ← mapBars device then
          finishCard device serialPriv minorNumber
        else
          pure (none, minorNumber)) after := by
  simp [serialfcCardNew, Machine.run_bind, run_kmalloc, memory, serialRun,
    notError]

theorem run_serialfcCardNew_of_not_acquires {numPorts : Nat}
    (board : boardNumPorts device.pciDev.device = some numPorts)
    (memory : fails (.cardMemory device.pdev) = false)
    (fail : ¬AcquiresCard fails device) :
    ∃ after, (kernelMachine fails).run (serialfcCardNew device minorNumber)
        ledger = (some (none, minorNumber), after) ∧
      after (.cardMemory device.pdev) =
        ledger (.cardMemory device.pdev) + 1 := by
  by_cases serial : device.cardType = .fscc →
      fails (.serialPorts device.pdev) = false
  · have notMaps : ¬MapsBars fails device := fun maps => fail ⟨serial, maps⟩
    rcases run_initSerialPorts (ledger.acquire (.cardMemory device.pdev)) board
      serial with ⟨serialPriv, middle, notError, serialRun, kept⟩
    rcases run_mapBars_of_not_maps middle notMaps with ⟨after, mapRun⟩
    refine ⟨after, ?_, ?_⟩
    · rw [run_serialfcCardNew_of_serial ledger minorNumber memory
      notError serialRun]
      simp [Machine.run_bind, mapRun]
    · have others : (mapBars device).Performs fun call =>
          call.resource ≠ .cardMemory device.pdev :=
        mapBars_performs fun bar => DriverResource.noConfusion
      rw [run_ledger_of_performs others mapRun, kept _ DriverResource.noConfusion]
      exact Ledger.acquire_self ledger
  · have fscc : device.cardType = .fscc := by
      by_contra other
      exact serial fun isFscc => absurd isFscc other
    have failed : fails (.serialPorts device.pdev) = true := by
      by_contra succeeds
      exact serial fun _ => by simpa using succeeds
    refine ⟨ledger.acquire (.cardMemory device.pdev), ?_, by simp⟩
    simp [serialfcCardNew, initSerialPorts, pciserialInitPorts, board, fscc,
      Machine.run_bind, run_kmalloc, memory, failed]

theorem run_serialfcCardNew_of_acquires {numPorts : Nat}
    (board : boardNumPorts device.pciDev.device = some numPorts)
    (memory : fails (.cardMemory device.pdev) = false)
    (acquires : AcquiresCard fails device) :
    ∃ serialPriv middle,
      middle (.mapping device.pdev device.addrBar) =
        ledger (.mapping device.pdev device.addrBar) + 1 ∧
      (kernelMachine fails).run (serialfcCardNew device minorNumber) ledger =
        (kernelMachine fails).run (do
          let (ports, next) ← newPorts numPorts minorNumber
          pure (some ⟨device.pdev, serialPriv, ports⟩, next)) middle := by
  rcases run_initSerialPorts (ledger.acquire (.cardMemory device.pdev)) board
    acquires.1 with ⟨serialPriv, after, notError, serialRun, kept⟩
  rcases run_mapBars_of_maps after acquires.2 with ⟨middle, mapRun, mapped⟩
  refine ⟨serialPriv, middle, ?_, ?_⟩
  · rw [mapped, kept _ DriverResource.noConfusion,
      Ledger.acquire_of_ne _ DriverResource.noConfusion]
  · rw [run_serialfcCardNew_of_serial ledger minorNumber memory
      notError serialRun]
    simp [Machine.run_bind, mapRun, finishCard, board]

end Cards

section Callbacks

variable (fails : DriverResource → Bool) (device : PciFunction)
  (minorNumber numPorts : Nat)

def SomePortTraps (fails : DriverResource → Bool) (minorNumber numPorts : Nat) :
    Prop :=
  ∃ channel < numPorts, PortTraps fails (minorNumber + channel)

theorem run_finishCard_cases (serialPriv : Pointer) (ledger : CardLedger) :
    let finish : Kernel (Option CardRecord × Nat) := do
      let (ports, next) ← newPorts numPorts minorNumber
      pure (some ⟨device.pdev, serialPriv, ports⟩, next)
    (SomePortTraps fails minorNumber numPorts ∧
        ((kernelMachine fails).run finish ledger).1 = none) ∨
      ¬SomePortTraps fails minorNumber numPorts ∧
        ∃ ports next after, (kernelMachine fails).run finish ledger =
            (some (some ⟨device.pdev, serialPriv, ports⟩, next), after) ∧
          (kernelMachine fails).run (newPorts numPorts minorNumber) ledger =
            (some (ports, next), after) := by
  intro finish
  have ends := @run_newPorts_eq_none_iff fails ledger numPorts minorNumber
  rcases loop : (kernelMachine fails).run (newPorts numPorts minorNumber) ledger
    with ⟨_ | ⟨ports, next⟩, after⟩
  · left
    rw [loop] at ends
    refine ⟨ends.mp rfl, ?_⟩
    simp [finish, loop]
  · right
    rw [loop] at ends
    refine ⟨fun traps => ?_, ports, next, after, ?_, rfl⟩
    · have ended := ends.mpr traps
      cases ended
    · simp [finish, loop]

variable {numPorts}

theorem cardKeepsLedger_iff
    (board : boardNumPorts device.pciDev.device = some numPorts) :
    CardKeepsLedger fails device minorNumber ↔
      (fails (.cardMemory device.pdev) = false → AcquiresCard fails device) := by
  constructor
  · intro keeps memory
    by_contra fail
    rcases run_serialfcCardNew_of_not_acquires (fun _ => 0) minorNumber
      board memory fail with ⟨after, run, leaked⟩
    rw [keeps _ _ _ run] at leaked
    simp at leaked
  · intro acquires ledger next after run
    cases memory : fails (.cardMemory device.pdev) with
    | true =>
        rw [run_serialfcCardNew_of_memory ledger minorNumber memory] at run
        exact (congrArg Prod.snd run).symm
    | false =>
        rcases run_serialfcCardNew_of_acquires ledger minorNumber board memory
          (acquires memory) with ⟨serialPriv, middle, _, cardRun⟩
        rw [cardRun] at run
        rcases run_finishCard_cases fails device minorNumber numPorts serialPriv
          middle
          with ⟨_, trapped⟩ | ⟨_, ports, last, final, success, _⟩
        · rw [run] at trapped
          cases trapped
        · rw [run] at success
          cases success

theorem run_serialfcCardNew_eq_none_iff
    (board : boardNumPorts device.pciDev.device = some numPorts)
    (ledger : CardLedger) :
    ((kernelMachine fails).run (serialfcCardNew device minorNumber) ledger).1 =
        none ↔
      fails (.cardMemory device.pdev) = false ∧ AcquiresCard fails device ∧
        SomePortTraps fails minorNumber numPorts := by
  cases memory : fails (.cardMemory device.pdev) with
  | true =>
      rw [run_serialfcCardNew_of_memory ledger minorNumber memory]
      simp
  | false =>
      by_cases acquires : AcquiresCard fails device
      · rcases run_serialfcCardNew_of_acquires ledger minorNumber board memory
          acquires with ⟨serialPriv, middle, _, cardRun⟩
        rw [cardRun]
        rcases run_finishCard_cases fails device minorNumber numPorts serialPriv
          middle with ⟨traps, trapped⟩ | ⟨noTrap, ports, last, final, success, _⟩
        · exact iff_of_true trapped ⟨rfl, acquires, traps⟩
        · rw [success]
          simp [noTrap]
      · rcases run_serialfcCardNew_of_not_acquires ledger minorNumber board memory
          acquires with ⟨_, failure, _⟩
        rw [failure]
        simp [acquires]

/-! ## The callbacks -/

def ofPort : DriverResource → Bool
  | .portMemory _ | .nameMemory _ | .deviceNode _ | .sysfsGroup _ | .cdev _ =>
      true
  | .enable _ | .cardMemory _ | .serialPorts _ | .mapping .. => false

theorem serialfcPortNew_performs (minorNumber : Nat) :
    (serialfcPortNew minorNumber).Performs fun call =>
      ofPort call.resource = true := by
  simp [serialfcPortNew, kmalloc, kfree, deviceCreate, deviceDestroy,
    sysfsCreateGroup, cdevAdd, acquire, release, ofPort, ResourceCall.resource]

theorem newPorts_performs (remaining minorNumber : Nat) :
    (newPorts remaining minorNumber).Performs fun call =>
      ofPort call.resource = true := by
  induction remaining generalizing minorNumber with
  | zero => trivial
  | succ remaining induction =>
      apply Program.performs_bind (serialfcPortNew_performs minorNumber)
      intro port
      exact Program.performs_bind (induction _) fun _ => trivial

theorem deletePorts_performs (minorNumbers : List Nat) :
    (deletePorts minorNumbers).Performs fun call =>
      ofPort call.resource = true := by
  induction minorNumbers with
  | nil => trivial
  | cons minorNumber minorNumbers induction =>
      apply Program.performs_bind _ fun _ => induction
      simp [serialfcPortDelete, deviceDestroy, cdevDel, kfree, release, ofPort,
        ResourceCall.resource]

theorem run_fcProbe_of_disabled (fail : fails (.enable device.pdev) = true)
    (cards : List CardRecord) (ledger : CardLedger) :
    (kernelMachine fails).run
        ((fcProbe device cards).interpret (kernelCalls minorNumber)) ledger =
      (some (-eio, cards), ledger) := by
  simp [fcProbe, kernelCalls, Machine.run_bind, fail]

theorem run_fcProbe_of_enabled (enables : fails (.enable device.pdev) = false)
    (cards : List CardRecord) (ledger : CardLedger) :
    (kernelMachine fails).run
        ((fcProbe device cards).interpret (kernelCalls minorNumber)) ledger =
      match (kernelMachine fails).run (serialfcCardNew device minorNumber)
        (ledger.acquire (.enable device.pdev)) with
      | (some (card, _), after) => (some (0, cards ++ card.toList), after)
      | (none, after) => (none, after) := by
  simp only [fcProbe, kernelCalls, Program.interpret_perform_bind,
    Machine.run_bind, run_acquire_of_not_fails enables]
  rcases run : (kernelMachine fails).run (serialfcCardNew device minorNumber)
    (ledger.acquire (.enable device.pdev)) with ⟨_ | ⟨card, next⟩, after⟩ <;>
    simp only [if_true, kernelCalls, Program.interpret_perform_bind,
      Program.interpret_pure, Machine.run_bind, Machine.run_pure, run]

theorem mapping_of_run_serialfcCardNew
    (board : boardNumPorts device.pciDev.device = some numPorts)
    {ledger after : CardLedger} {card : CardRecord} {next : Nat}
    (run : (kernelMachine fails).run (serialfcCardNew device minorNumber)
      ledger = (some (some card, next), after)) :
    after (.mapping device.pdev device.addrBar) =
      ledger (.mapping device.pdev device.addrBar) + 1 := by
  cases memory : fails (.cardMemory device.pdev) with
  | true =>
      rw [run_serialfcCardNew_of_memory ledger minorNumber memory] at run
      cases run
  | false =>
      by_cases acquires : AcquiresCard fails device
      · rcases run_serialfcCardNew_of_acquires ledger minorNumber board memory
          acquires with ⟨serialPriv, middle, mapped, cardRun⟩
        rw [cardRun] at run
        rcases run_finishCard_cases fails device minorNumber numPorts serialPriv
          middle with ⟨_, trapped⟩ | ⟨_, ports, last, final, success, loop⟩
        · rw [run] at trapped
          cases trapped
        · have others : (newPorts numPorts minorNumber).Performs fun call =>
              call.resource ≠ .mapping device.pdev device.addrBar := by
            apply (newPorts_performs numPorts minorNumber).mono
            intro call isPort same
            rw [same] at isPort
            cases isPort
          rw [success] at run
          obtain rfl : final = after := congrArg Prod.snd run
          rw [run_ledger_of_performs others loop, mapped]
      · rcases run_serialfcCardNew_of_not_acquires ledger minorNumber board memory
          acquires with ⟨_, failure, _⟩
        rw [failure] at run
        cases run

theorem initSerialPorts_performs {allowed : ResourceCall DriverResource → Prop}
    (serial : allowed (.acquire (.serialPorts device.pdev))) :
    (initSerialPorts device).Performs allowed := by
  cases board : boardNumPorts device.pciDev.device <;>
    simp [initSerialPorts, pciserialInitPorts, board, acquire, serial]

theorem finishCard_performs (serialPriv : Pointer) :
    (finishCard device serialPriv minorNumber).Performs fun call =>
      ofPort call.resource = true := by
  rw [finishCard]
  cases boardNumPorts device.pciDev.device with
  | none => trivial
  | some numPorts =>
      exact Program.performs_bind (newPorts_performs _ _) fun _ => trivial

theorem serialfcCardNew_performs :
    (serialfcCardNew device minorNumber).Performs fun call =>
      call.resource ≠ .enable device.pdev := by
  have finish : ∀ serialPriv,
      (finishCard device serialPriv minorNumber).Performs fun call =>
        call.resource ≠ .enable device.pdev := by
    intro serialPriv
    apply (finishCard_performs device minorNumber serialPriv).mono
    intro call isPort same
    rw [same] at isPort
    cases isPort
  have map : (mapBars device).Performs fun call =>
      call.resource ≠ .enable device.pdev :=
    mapBars_performs fun bar => DriverResource.noConfusion
  have serial : (initSerialPorts device).Performs fun call =>
      call.resource ≠ .enable device.pdev :=
    initSerialPorts_performs device DriverResource.noConfusion
  rw [serialfcCardNew]
  apply Program.performs_bind
  · simp [kmalloc, acquire, ResourceCall.resource]
  · intro card
    rw [Program.performs_ite]
    refine ⟨fun _ => trivial, fun _ => ?_⟩
    apply Program.performs_bind serial
    intro serialPriv
    rw [Program.performs_ite]
    refine ⟨fun _ => trivial, fun _ => ?_⟩
    apply Program.performs_bind map
    intro mapped
    rw [Program.performs_ite]
    exact ⟨fun _ => finish serialPriv, fun _ => trivial⟩

theorem serialfcCardDelete_performs (card : CardRecord) :
    (serialfcCardDelete card).Performs fun call =>
      call.resource ≠ .mapping device.pdev device.addrBar := by
  apply Program.performs_bind
  · apply (deletePorts_performs card.ports).mono
    intro call isPort same
    rw [same] at isPort
    cases isPort
  · intro _
    simp [pciserialRemovePorts, kfree, release, ResourceCall.resource]

theorem fcRemove_performs (cards : List CardRecord) :
    ((fcRemove device cards).interpret (kernelCalls minorNumber)).Performs
      fun call => call.resource ≠ .mapping device.pdev device.addrBar := by
  rw [fcRemove]
  cases serialfcCardFind device cards with
  | none => trivial
  | some card =>
      apply Program.performs_bind (serialfcCardDelete_performs device card)
      intro _
      refine ⟨DriverResource.noConfusion, fun _ => trivial⟩

theorem run_fcRemove_of_absent {cards : List CardRecord}
    (absent : ∀ card ∈ cards, card.pdev ≠ device.pdev) (ledger : CardLedger) :
    (kernelMachine fails).run
        ((fcRemove device cards).interpret (kernelCalls minorNumber)) ledger =
      (some cards, ledger) := by
  have notFound : serialfcCardFind device cards = none :=
    List.find?_eq_none.mpr fun card member => by simpa using absent card member
  rw [fcRemove, notFound]
  rfl

theorem not_probeKeepsLedger
    (board : boardNumPorts device.pciDev.device = some numPorts)
    (enables : fails (.enable device.pdev) = false) :
    ¬ProbeKeepsLedger fails device minorNumber := by
  intro keeps
  rcases keeps [] (fun _ => 0) (List.forall_mem_nil _) with
    ⟨status, probedCards, middle, removedCards, probeRun, removeRun⟩
  rw [run_fcProbe_of_enabled fails device minorNumber enables] at probeRun
  rcases cardRun : (kernelMachine fails).run (serialfcCardNew device minorNumber)
    (Ledger.acquire (fun _ => 0) (.enable device.pdev)) with
    ⟨_ | ⟨_ | card, next⟩, after⟩ <;>
    rw [cardRun] at probeRun
  · cases probeRun
  · -- The removal finds no card and does not disable the device.
    cases probeRun
    have nothing := run_fcRemove_of_absent fails device minorNumber
      (List.forall_mem_nil _) middle
    obtain rfl : middle = fun _ => 0 :=
      congrArg Prod.snd (nothing.symm.trans removeRun)
    have counts := run_ledger_of_performs
      (serialfcCardNew_performs device minorNumber) cardRun
    rw [Ledger.acquire_self] at counts
    omega
  · -- The registers of the card stay mapped.
    cases probeRun
    have mapped := mapping_of_run_serialfcCardNew fails device minorNumber board
      cardRun
    have kept := run_ledger_of_performs
      (fcRemove_performs device minorNumber [card]) removeRun
    rw [mapped, Ledger.acquire_of_ne _ (by simp)] at kept
    omega

theorem probeKeepsLedger_iff
    (board : boardNumPorts device.pciDev.device = some numPorts) :
    ProbeKeepsLedger fails device minorNumber ↔
      fails (.enable device.pdev) = true := by
  constructor
  · intro keeps
    by_contra enables
    exact not_probeKeepsLedger fails device minorNumber board
      (by simpa using enables) keeps
  · intro fail cards ledger absent
    exact ⟨_, _, _, _,
      run_fcProbe_of_disabled fails device minorNumber fail cards ledger,
      run_fcRemove_of_absent fails device minorNumber absent ledger⟩

end Callbacks

/-- The ledger is kept exactly when no port of the board stops at its
attributes, no card stops after its memory, and the device is not enabled. -/
theorem keepsLedger_iff (fails : DriverResource → Bool) (device : PciFunction)
    (minorNumber numPorts : Nat)
    (board : boardNumPorts device.pciDev.device = some numPorts) :
    KeepsLedger fails device minorNumber numPorts ↔
      (∀ channel < numPorts, ¬PortLeaks fails (minorNumber + channel)) ∧
      (fails (.cardMemory device.pdev) = false → AcquiresCard fails device) ∧
      fails (.enable device.pdev) = true := by
  simp only [← portKeepsLedger_iff]
  rw [← cardKeepsLedger_iff fails device minorNumber board,
    ← probeKeepsLedger_iff fails device minorNumber board]
  constructor
  · intro keeps
    exact ⟨keeps.port, keeps.card, keeps.probe⟩
  · rintro ⟨port, card, probe⟩
    exact ⟨port, card, probe⟩

/-- A device that cannot be enabled is left alone. -/
theorem keepsLedger_disabled :
    KeepsLedger (fun resource => decide (resource = .enable 0))
      (fsccFunction 0) 0 2 := by
  apply (keepsLedger_iff _ _ 0 2 rfl).mpr
  refine ⟨?_, ?_, by decide⟩
  · rintro channel _ ⟨_, _, _, attributes⟩
    exact absurd attributes (by simp)
  · intro _
    exact ⟨fun _ => by decide, by decide, fun _ => by decide⟩

/-- Nothing fails at all, and the registers of the card stay mapped. -/
theorem not_keepsLedger :
    ¬∀ fails device minorNumber numPorts,
      boardNumPorts device.pciDev.device = some numPorts →
      KeepsLedger fails device minorNumber numPorts := by
  intro keeps
  have probe := (keeps (fun _ => false) (fsccFunction 0) 0 2 rfl).probe
  have disabled := (probeKeepsLedger_iff _ _ _ rfl).mp probe
  cases disabled

end SerialFc.Lifecycle
