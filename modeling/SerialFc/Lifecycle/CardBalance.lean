import SerialFc.Foundation.Balance
import SerialFc.Lifecycle.PortNames

/-! # What a card adds to the ledger

A card that comes about holds what `serialfc_card_delete` gives back. What its
making takes besides is spilled: no other function gives it back.
-/

namespace SerialFc.Lifecycle

open Kernel Ledger

/-! ## Holdings -/

def portHolds (minorNumber : Nat) : CardLedger :=
  one (.portMemory minorNumber) + one (.nameMemory minorNumber) +
    one (.deviceNode minorNumber) + one (.sysfsGroup minorNumber) +
    one (.cdev minorNumber)

def portsHold (ports : List Nat) : CardLedger :=
  (ports.map portHolds).sum

def CardRecord.holds (card : CardRecord) : CardLedger :=
  one (.cardMemory card.pdev) +
    (if card.serialPriv = .null then 0 else one (.serialPorts card.pdev)) +
    portsHold card.ports

def cardsHold (cards : List CardRecord) : CardLedger :=
  (cards.map CardRecord.holds).sum

def PciFunction.bars (device : PciFunction) : List Nat :=
  if device.cardType = .fscc then [1, 0, 2] else [0]

def mappings (pdev : Nat) (bars : List Nat) : CardLedger :=
  (bars.map fun bar => one (.mapping pdev bar)).sum

section Spills

variable (fails : DriverResource → Bool)

instance (minorNumber : Nat) : Decidable (PortLeaks fails minorNumber) :=
  inferInstanceAs (Decidable (_ ∧ _))

/-- A port whose attributes fail leaves the rest of it behind. -/
def portSpills (minorNumber : Nat) : CardLedger :=
  if PortLeaks fails minorNumber then
    one (.portMemory minorNumber) + one (.nameMemory minorNumber) +
      one (.deviceNode minorNumber)
  else 0

def portsSpill (remaining minorNumber : Nat) : CardLedger :=
  ((List.range' minorNumber remaining).map (portSpills fails)).sum

variable (device : PciFunction)

def mappedBars : List Nat :=
  device.bars.takeWhile fun bar => !fails (.mapping device.pdev bar)

def stoppedCard : CardLedger :=
  if fails (.cardMemory device.pdev) then 0
  else if device.cardType = .fscc then
    if fails (.serialPorts device.pdev) then one (.cardMemory device.pdev)
    else one (.cardMemory device.pdev) + one (.serialPorts device.pdev) +
      mappings device.pdev (mappedBars fails device)
  else one (.cardMemory device.pdev) +
    mappings device.pdev (mappedBars fails device)

/-- What making a card takes that the card does not hold. No mapping is ever
undone. -/
def cardSpills (minorNumber : Nat) : CardLedger :=
  if ReachesLoop fails device then
    mappings device.pdev device.bars +
      portsSpill fails (cardPorts fails device minorNumber) minorNumber
  else stoppedCard fails device

end Spills

/-! ## Ports -/

section Ports

variable {fails : DriverResource → Bool}

/-- The ports of a loop that come about are some of its numbers, in order, and got
their attributes. -/
structure PortsMade (fails : DriverResource → Bool) (numbers ports : List Nat) :
    Prop where
  numbers : ports.Sublist numbers
  whole : ∀ port ∈ ports, ¬PortLeaks fails port

theorem adds_serialfcPortNew {minorNumber : Nat}
    (noTrap : ¬PortTraps fails minorNumber) :
    ∃ port : Option Nat, PortsMade fails [minorNumber] port.toList ∧
      Adds fails (serialfcPortNew minorNumber) (some port)
        (portsHold port.toList + portSpills fails minorNumber) := by
  have nothing : PortsMade fails [minorNumber] (none : Option Nat).toList :=
    ⟨List.nil_sublist _, fun _ absent => by cases absent⟩
  by_cases leaks : PortLeaks fails minorNumber
  · refine ⟨none, nothing, fun ledger => ?_⟩
    rw [run_serialfcPortNew_of_leaks ledger leaks]
    simp only [acquire_eq_add, portsHold, portSpills, if_pos leaks]
    simp [add_assoc]
  · cases memory : fails (.portMemory minorNumber) with
    | true =>
        refine ⟨none, nothing, fun ledger => ?_⟩
        simp [serialfcPortNew, Machine.run_bind, run_kmalloc, memory, portsHold,
          portSpills, leaks]
    | false =>
        cases name : fails (.nameMemory minorNumber) with
        | true =>
            refine ⟨none, nothing, fun ledger => ?_⟩
            simp [serialfcPortNew, Machine.run_bind, run_kmalloc, memory, name,
              kfree, portsHold, portSpills, leaks]
        | false =>
            have node : fails (.deviceNode minorNumber) = false := by
              by_contra failed
              exact noTrap ⟨memory, name, by simpa using failed⟩
            have attributes : fails (.sysfsGroup minorNumber) = false := by
              by_contra failed
              exact leaks ⟨memory, name, node, by simpa using failed⟩
            cases added : fails (.cdev minorNumber) with
            | true =>
                refine ⟨none, nothing, fun ledger => ?_⟩
                simp [serialfcPortNew, Machine.run_bind, run_kmalloc, memory,
                  name, deviceCreate, node, sysfsCreateGroup, attributes, cdevAdd,
                  added, deviceDestroy, kfree, portsHold, portSpills, leaks]
            | false =>
                have made : PortsMade fails [minorNumber]
                    (some minorNumber : Option Nat).toList :=
                  ⟨.refl _, by simpa using leaks⟩
                refine ⟨some minorNumber, made, fun ledger => ?_⟩
                simp [serialfcPortNew, Machine.run_bind, run_kmalloc, memory,
                  name, deviceCreate, node, sysfsCreateGroup, attributes, cdevAdd,
                  added, portsHold, portHolds, portSpills, leaks, acquire_eq_add,
                  add_assoc]

theorem adds_serialfcPortDelete (minorNumber : Nat) :
    Adds fails (serialfcPortDelete minorNumber) (some ())
      (-portHolds minorNumber) := by
  intro ledger
  simp only [serialfcPortDelete, deviceDestroy, cdevDel, kfree, Machine.run_bind,
    run_release, release_eq_sub, portHolds]
  congr 1
  abel

theorem adds_deletePorts (ports : List Nat) :
    Adds fails (deletePorts ports) (some ()) (-portsHold ports) := by
  induction ports with
  | nil => exact (Adds.pure ()).congr (by simp [portsHold])
  | cons minorNumber ports induction =>
      apply ((adds_serialfcPortDelete minorNumber).bind induction).congr
      simp only [portsHold, List.map_cons, List.sum_cons]
      abel

theorem adds_newPorts {remaining minorNumber : Nat}
    (noTrap : ¬SomePortTraps fails minorNumber remaining) :
    ∃ ports, PortsMade fails (List.range' minorNumber remaining) ports ∧
      Adds fails (newPorts remaining minorNumber)
        (some (ports, minorNumber + remaining))
        (portsHold ports + portsSpill fails remaining minorNumber) := by
  induction remaining generalizing minorNumber with
  | zero =>
      refine ⟨[], ⟨.refl _, fun _ absent => by cases absent⟩, ?_⟩
      exact (Adds.pure _).congr (by simp [portsHold, portsSpill])
  | succ remaining induction =>
      have first : ¬PortTraps fails minorNumber :=
        fun traps => noTrap ⟨0, by omega, traps⟩
      have later : ¬SomePortTraps fails (minorNumber + 1) remaining := by
        rintro ⟨channel, small, traps⟩
        refine noTrap ⟨channel + 1, by omega, ?_⟩
        rwa [Nat.add_comm channel 1, ← Nat.add_assoc]
      rcases adds_serialfcPortNew first with ⟨port, own, portAdds⟩
      rcases induction later with ⟨ports, others, portsAdd⟩
      have next : minorNumber + 1 + remaining = minorNumber + (remaining + 1) := by
        omega
      have made : PortsMade fails (List.range' minorNumber (remaining + 1))
          (port.toList ++ ports) :=
        ⟨own.numbers.append others.numbers,
          List.forall_mem_append.mpr ⟨own.whole, others.whole⟩⟩
      refine ⟨port.toList ++ ports, made, fun ledger => ?_⟩
      simp only [newPorts, Machine.run_bind, portAdds ledger, portsAdd _, next,
        Machine.run_pure, portsHold, portsSpill, List.map_append, List.sum_append,
        List.range'_succ, List.map_cons, List.sum_cons]
      congr 1
      abel

end Ports

/-! ## Cards -/

section Cards

variable {fails : DriverResource → Bool} {device : PciFunction}

theorem adds_serialfcCardDelete (card : CardRecord) :
    Adds fails (serialfcCardDelete card) (some ()) (-card.holds) := by
  intro ledger
  by_cases null : card.serialPriv = .null
  · simp [serialfcCardDelete, Machine.run_bind, adds_deletePorts card.ports _,
      null, kfree, CardRecord.holds, release_eq_sub, sub_eq_add_neg]
    abel
  · simp [serialfcCardDelete, Machine.run_bind, adds_deletePorts card.ports _,
      null, kfree, pciserialRemovePorts, CardRecord.holds, release_eq_sub,
      sub_eq_add_neg]
    abel

theorem adds_mapBars :
    Adds fails (mapBars device) (some (decide (MapsBars fails device)))
      (mappings device.pdev (mappedBars fails device)) := by
  intro ledger
  by_cases fscc : device.cardType = .fscc
  · cases addr : fails (.mapping device.pdev 1) <;>
    cases bar0 : fails (.mapping device.pdev 0) <;>
    cases bar2 : fails (.mapping device.pdev 2) <;>
    simp [mapBars, pciIomap, Machine.run_bind, PciFunction.addrBar, fscc, addr,
      bar0, bar2, MapsBars, mappings, mappedBars, PciFunction.bars,
      acquire_eq_add, add_assoc]
  · cases addr : fails (.mapping device.pdev 0) <;>
    simp [mapBars, pciIomap, Machine.run_bind, PciFunction.addrBar, fscc, addr,
      MapsBars, mappings, mappedBars, PciFunction.bars, acquire_eq_add]

theorem mappedBars_of_maps (maps : MapsBars fails device) :
    mappedBars fails device = device.bars := by
  rcases maps with ⟨addr, others⟩
  by_cases fscc : device.cardType = .fscc
  · rcases others fscc with ⟨bar0, bar2⟩
    simp only [PciFunction.addrBar, if_pos fscc] at addr
    simp [mappedBars, PciFunction.bars, fscc, addr, bar0, bar2]
  · simp only [PciFunction.addrBar, if_neg fscc] at addr
    simp [mappedBars, PciFunction.bars, fscc, addr]

theorem adds_initSerialPorts {numPorts : Nat}
    (board : boardNumPorts device.pciDev.device = some numPorts) :
    Adds fails (initSerialPorts device)
      (some (if device.cardType = .fscc then
        if fails (.serialPorts device.pdev) then .error else .valid else .null))
      (if device.cardType = .fscc then
        if fails (.serialPorts device.pdev) then 0
        else one (.serialPorts device.pdev) else 0) := by
  intro ledger
  by_cases fscc : device.cardType = .fscc
  · cases serial : fails (.serialPorts device.pdev) <;>
    simp [initSerialPorts, pciserialInitPorts, board, fscc, serial,
      acquire_eq_add]
  · simp [initSerialPorts, fscc]

theorem adds_serialfcCardNew_of_stops {numPorts : Nat}
    (board : boardNumPorts device.pciDev.device = some numPorts)
    (stops : ¬ReachesLoop fails device) (minorNumber : Nat) :
    Adds fails (serialfcCardNew device minorNumber) (some (none, minorNumber))
      (stoppedCard fails device) := by
  intro ledger
  cases memory : fails (.cardMemory device.pdev) with
  | true =>
      rw [run_serialfcCardNew_of_memory ledger minorNumber memory]
      simp [stoppedCard, memory]
  | false =>
      have noMaps : ¬(AcquiresCard fails device) := fun acquires =>
        stops ⟨memory, acquires⟩
      have serialAdds := @adds_initSerialPorts fails device _ board
      have mapsAdd := @adds_mapBars fails device
      by_cases fscc : device.cardType = .fscc
      · cases serial : fails (.serialPorts device.pdev) with
        | true =>
            simp only [fscc, serial, if_true] at serialAdds
            simp [serialfcCardNew, Machine.run_bind, run_kmalloc, memory,
              serialAdds _, stoppedCard, fscc, serial, acquire_eq_add]
        | false =>
            have maps : ¬MapsBars fails device := fun maps =>
              noMaps ⟨fun _ => serial, maps⟩
            simp only [fscc, serial, if_true] at serialAdds
            simp [serialfcCardNew, Machine.run_bind, run_kmalloc, memory,
              serialAdds _, mapsAdd _, stoppedCard, fscc, serial, maps,
              acquire_eq_add, add_assoc]
      · have maps : ¬MapsBars fails device := fun maps =>
          noMaps ⟨fun isFscc => absurd isFscc fscc, maps⟩
        simp only [if_neg fscc] at serialAdds
        simp [serialfcCardNew, Machine.run_bind, run_kmalloc, memory,
          serialAdds _, mapsAdd _, stoppedCard, fscc, maps, acquire_eq_add,
          add_assoc]

def PciFunction.serialPriv (device : PciFunction) : Pointer :=
  if device.cardType = .fscc then .valid else .null

theorem cardPorts_of_reaches {numPorts minorNumber : Nat}
    (board : boardNumPorts device.pciDev.device = some numPorts)
    (reaches : ReachesLoop fails device)
    (noTrap : ¬SomePortTraps fails minorNumber numPorts) :
    cardPorts fails device minorNumber = numPorts := by
  rcases adds_newPorts noTrap with ⟨ports, _, portsAdd⟩
  have next := next_of_run_newPorts (portsAdd 0)
  simp only [cardPorts, board, if_pos reaches]
  omega

theorem adds_serialfcCardNew_of_reaches {numPorts minorNumber : Nat}
    (board : boardNumPorts device.pciDev.device = some numPorts)
    (reaches : ReachesLoop fails device)
    (noTrap : ¬SomePortTraps fails minorNumber numPorts) :
    ∃ ports, PortsMade fails
        (List.range' minorNumber (cardPorts fails device minorNumber)) ports ∧
      Adds fails (serialfcCardNew device minorNumber)
        (some (some ⟨device.pdev, device.serialPriv, ports⟩,
          minorNumber + cardPorts fails device minorNumber))
        (CardRecord.holds ⟨device.pdev, device.serialPriv, ports⟩ +
          cardSpills fails device minorNumber) := by
  rw [cardSpills, if_pos reaches, cardPorts_of_reaches board reaches noTrap]
  rcases reaches with ⟨memory, serial, maps⟩
  rcases adds_newPorts noTrap with ⟨ports, own, portsAdd⟩
  refine ⟨ports, own, fun ledger => ?_⟩
  have mapsAdd := @adds_mapBars fails device
  rw [mappedBars_of_maps maps] at mapsAdd
  have serialAdds := @adds_initSerialPorts fails device _ board
  by_cases fscc : device.cardType = .fscc
  · simp only [fscc, serial fscc, if_true] at serialAdds
    simp [serialfcCardNew, Machine.run_bind, run_kmalloc, memory, serialAdds _,
      mapsAdd _, maps, finishCard, board, portsAdd _, PciFunction.serialPriv,
      fscc, CardRecord.holds, acquire_eq_add]
    abel
  · simp only [if_neg fscc] at serialAdds
    simp [serialfcCardNew, Machine.run_bind, run_kmalloc, memory, serialAdds _,
      mapsAdd _, maps, finishCard, board, portsAdd _, PciFunction.serialPriv,
      fscc, CardRecord.holds, acquire_eq_add]
    abel

end Cards

end SerialFc.Lifecycle
