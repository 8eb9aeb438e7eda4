import SerialFc.Lifecycle.SessionRuns

/-! # What unloading leaves behind

While the module is loaded the ledger holds the cards of its list, each with
its device enabled once, and what set-ups have spilled. Unloading gives back
what the cards hold.
-/

namespace SerialFc.Lifecycle

open Kernel Ledger

def cardsEnable (cards : List CardRecord) : CardLedger :=
  (cards.map fun card => one (.enable card.pdev)).sum

structure Accounts (before : CardLedger) (setUps : List SetUp)
    (cards : List CardRecord) (loaded : Loaded) : Prop where
  minorNumber : loaded.minorNumber = portsUsed setUps 0
  ledger : loaded.ledger =
    before + (cardsHold cards + cardsEnable cards) + spilled setUps 0

section Lists

theorem portsUsed_append (first second : List SetUp) (minorNumber : Nat) :
    portsUsed (first ++ second) minorNumber =
      portsUsed first minorNumber +
        portsUsed second (minorNumber + portsUsed first minorNumber) := by
  induction first generalizing minorNumber with
  | nil => simp [portsUsed]
  | cons setUp later induction =>
      simp only [List.cons_append, portsUsed, induction, Nat.add_assoc]

theorem spilled_append (first second : List SetUp) (minorNumber : Nat) :
    spilled (first ++ second) minorNumber =
      spilled first minorNumber +
        spilled second (minorNumber + portsUsed first minorNumber) := by
  induction first generalizing minorNumber with
  | nil => simp [spilled, portsUsed]
  | cons setUp later induction =>
      simp only [List.cons_append, spilled, portsUsed, induction, add_assoc]

theorem cardsHold_append (first second : List CardRecord) :
    cardsHold (first ++ second) = cardsHold first + cardsHold second := by
  rw [cardsHold, List.map_append, List.sum_append]
  rfl

theorem cardsEnable_append (first second : List CardRecord) :
    cardsEnable (first ++ second) = cardsEnable first + cardsEnable second := by
  rw [cardsEnable, List.map_append, List.sum_append]
  rfl

theorem cardsHold_listDel {device : PciFunction} {cards : List CardRecord}
    {card : CardRecord} (found : serialfcCardFind device cards = some card) :
    cardsHold cards + cardsEnable cards =
      cardsHold (listDel device cards) + cardsEnable (listDel device cards) +
        (card.holds + one (.enable device.pdev)) := by
  induction cards with
  | nil => cases found
  | cons first cards induction =>
      by_cases same : first.pdev = device.pdev
      · have isFirst : card = first := by
          simpa [serialfcCardFind, same] using found.symm
        subst isFirst
        simp only [listDel, List.eraseP_cons, same, decide_true,
          cardsHold, cardsEnable, List.map_cons, List.sum_cons, cond_true]
        abel
      · have later : serialfcCardFind device cards = some card := by
          simpa [serialfcCardFind, same] using found
        have rest := induction later
        simp only [listDel] at rest
        simp only [listDel, List.eraseP_cons, same, decide_false,
          cardsHold, cardsEnable, List.map_cons, List.sum_cons, cond_false]
          at rest ⊢
        calc
          _ = first.holds + one (.enable first.pdev) +
              ((cards.map CardRecord.holds).sum +
                (cards.map fun card => one (.enable card.pdev)).sum) := by
            abel
          _ = _ := by
            rw [rest]
            abel

end Lists

/-! ## Accounts along a session -/

theorem Makes.cardsEnable {fails : DriverResource → Bool} {device : PciFunction}
    {minorNumber : Nat} {card : Option CardRecord}
    (makes : Makes fails device minorNumber card) :
    cardsEnable card.toList =
      if ReachesLoop fails device then one (.enable device.pdev) else 0 := by
  cases card with
  | none =>
      have stops : ¬ReachesLoop fails device := fun reaches => by
        cases makes.made.mpr reaches
      simp [SerialFc.Lifecycle.cardsEnable, stops]
  | some record =>
      simp [SerialFc.Lifecycle.cardsEnable, makes.made.mp rfl, makes.pdev record rfl]

theorem accounts_invariant (before : CardLedger) :
    SessionInvariant (Accounts before) where
  agrees accounts ledger minorNumber :=
    ⟨minorNumber.trans accounts.minorNumber, ledger.trans accounts.ledger⟩
  disabled accounts failed := by
    constructor
    · rw [accounts.minorNumber, portsUsed_append]
      simp [portsUsed, SetUp.ports, failed]
    · rw [accounts.ledger, spilled_append]
      simp [spilled, SetUp.spills, failed]
  setUp {_ _ _ fails device card} accounts enables makes := by
    have number := accounts.minorNumber
    constructor
    · simp only [Loaded.setUp, portsUsed_append, portsUsed, SetUp.ports, enables,
        number, Nat.zero_add, Nat.add_zero]
      rfl
    · simp only [Loaded.setUp, accounts.ledger, cardsHold_append,
        cardsEnable_append, makes.cardsEnable, spilled_append, spilled,
        SetUp.spills, enables, number, Nat.zero_add]
      by_cases reaches : ReachesLoop fails device
      · simp only [reaches, if_true, Bool.false_eq_true, if_false]
        abel
      · simp only [reaches, Bool.false_eq_true, if_false]
        abel
  remove {_ cards _} device accounts := by
    rw [Loaded.remove]
    cases found : serialfcCardFind device cards with
    | none =>
        have absent := List.find?_eq_none.mp found
        have same : listDel device cards = cards :=
          List.eraseP_of_forall_not absent
        rw [same]
        exact accounts
    | some card =>
        refine ⟨accounts.minorNumber, ?_⟩
        simp only [accounts.ledger, cardsHold_listDel found]
        abel

theorem accounts_fresh {before : CardLedger} {setup : Loaded}
    (number : setup.minorNumber = 0) (ledger : setup.ledger = before) :
    Accounts before [] [] setup :=
  ⟨number, by simp [ledger, cardsHold, cardsEnable, spilled]⟩

/-! ## Unloading -/

section Unloading

variable {devices : List PciFunction} {answers : LoadAnswers}

theorem runWith_exitCards (cards : List CardRecord) (loaded : Loaded) :
    (exitCards cards).runWith (moduleCall devices answers) loaded =
      some ([], { loaded with ledger := loaded.ledger + -cardsHold cards }) := by
  induction cards generalizing loaded with
  | nil => simp [exitCards, cardsHold]
  | cons card cards induction =>
      have deletes := perform_of_adds
        (@adds_serialfcCardDelete answers.fallbackFails card) loaded
      rw [exitCards, Program.runWith_bind, Program.runWith_perform_done, moduleCall,
        deviceCall, deletes]
      simp only [induction, cardsHold, List.map_cons, List.sum_cons, neg_add]
      rw [add_assoc]

theorem Accounts.removeAll {before : CardLedger} {setUps : List SetUp}
    {loaded : Loaded} (accounts : Accounts before setUps [] loaded)
    (bound : List PciFunction) :
    ∃ next, SerialFc.Lifecycle.carryOutAll (bound.map .remove) [] loaded =
        some ([], next) ∧
      Accounts before setUps [] next := by
  induction bound generalizing loaded with
  | nil => exact ⟨loaded, rfl, accounts⟩
  | cons device bound induction =>
      rcases (accounts_invariant before).removal accounts device with
        ⟨middle, first, removed⟩
      rcases induction removed with ⟨next, later, rest⟩
      refine ⟨next, ?_, rest⟩
      rw [List.map_cons, SerialFc.Lifecycle.carryOutAll, first]
      exact later

/-- Unloading takes back what the cards of the list hold, but leaves their
devices enabled, and nothing takes back what set-ups have spilled. -/
theorem Accounts.exit {before : CardLedger} {setUps : List SetUp}
    {cards : List CardRecord} {loaded : Loaded}
    (accounts : Accounts before setUps cards loaded) :
    ∃ after, (serialfcExit cards).runWith (moduleCall devices answers) loaded =
        some ([], after) ∧
      after.ledger = before + cardsEnable cards + spilled setUps 0 ∧
      after.hasClass = false ∧ after.hasChrdev = false ∧
      after.hasDriver = false ∧ after.bound = [] := by
  have deleted : Accounts (before + cardsEnable cards) setUps []
      { loaded with ledger := loaded.ledger + -cardsHold cards } := by
    refine ⟨accounts.minorNumber, ?_⟩
    simp only [accounts.ledger, cardsHold, cardsEnable, List.map_nil,
      List.sum_nil]
    abel
  rcases deleted.removeAll loaded.bound with ⟨last, removals, unbound⟩
  have ledger := unbound.ledger
  simp only [cardsHold, cardsEnable, List.map_nil, List.sum_nil, add_zero]
    at ledger
  refine ⟨{ last with
    hasClass := false, hasChrdev := false, hasDriver := false, bound := [] },
    ?_, ledger, rfl, rfl, rfl, rfl⟩
  simp only [serialfcExit, Program.runWith_bind, runWith_exitCards, moduleCall,
    Program.runWith_perform_done, removals, Program.runWith_pure]

end Unloading

/-! ## What is given back -/

/-- Nothing gives these back: no function unmaps a BAR, and only the removal
that finds a card disables its device. -/
def DriverResource.Stays : DriverResource → Prop
  | .enable _ | .mapping .. => True
  | .cardMemory _ | .portMemory _ | .nameMemory _ | .serialPorts _
  | .deviceNode _ | .sysfsGroup _ | .cdev _ => False

/-- The set-up makes no card, or one that acquires all it asks for and whose
ports all get their attributes, and forgets nothing on the way. -/
def SetUp.Clean (setUp : SetUp) (minorNumber : Nat) : Prop :=
  setUp.fails (.enable setUp.device.pdev) = true ∨
    setUp.fails (.cardMemory setUp.device.pdev) = true ∨
    AcquiresCard setUp.fails setUp.device ∧
      ∀ channel < setUp.ports minorNumber,
        ¬PortLeaks setUp.fails (minorNumber + channel)

def AllClean : List SetUp → Nat → Prop
  | [], _ => True
  | setUp :: later, minorNumber =>
      setUp.Clean minorNumber ∧ AllClean later (minorNumber + setUp.ports minorNumber)

section Clean

variable {resource : DriverResource}

theorem mappings_nonneg (pdev : Nat) (bars : List Nat) :
    0 ≤ mappings pdev bars := by
  apply List.sum_nonneg
  intro balance member
  rcases List.mem_map.mp member with ⟨bar, _, rfl⟩
  exact nonneg_one _

theorem mappings_of_not_stays (goes : ¬resource.Stays) (pdev : Nat)
    (bars : List Nat) : mappings pdev bars resource = 0 := by
  induction bars with
  | nil => rfl
  | cons bar bars induction =>
      have different : resource ≠ .mapping pdev bar := by
        rintro rfl
        exact goes trivial
      change one _ resource + mappings pdev bars resource = 0
      rw [induction, one_of_ne different, add_zero]

theorem cardsEnable_of_not_stays (goes : ¬resource.Stays)
    (cards : List CardRecord) : cardsEnable cards resource = 0 := by
  induction cards with
  | nil => rfl
  | cons card cards induction =>
      have different : resource ≠ .enable card.pdev := by
        rintro rfl
        exact goes trivial
      change one _ resource + cardsEnable cards resource = 0
      rw [induction, one_of_ne different, add_zero]

variable (fails : DriverResource → Bool)

theorem portSpills_nonneg (minorNumber : Nat) :
    0 ≤ portSpills fails minorNumber := by
  rw [portSpills]
  split
  · exact add_nonneg (add_nonneg (nonneg_one _) (nonneg_one _)) (nonneg_one _)
  · exact le_refl 0

theorem portsSpill_nonneg (remaining minorNumber : Nat) :
    0 ≤ portsSpill fails remaining minorNumber := by
  apply List.sum_nonneg
  intro balance member
  rcases List.mem_map.mp member with ⟨port, _, rfl⟩
  exact portSpills_nonneg fails port

theorem portsSpill_eq_zero_iff (remaining minorNumber : Nat) :
    (∀ resource : DriverResource, ¬resource.Stays →
        portsSpill fails remaining minorNumber resource = 0) ↔
      ∀ channel < remaining, ¬PortLeaks fails (minorNumber + channel) := by
  constructor
  · intro zero channel small leaks
    have member : portSpills fails (minorNumber + channel) ∈
        (List.range' minorNumber remaining).map (portSpills fails) :=
      List.mem_map_of_mem (List.mem_range'_1.mpr (by omega))
    have below := List.single_le_sum (fun balance isOne => by
      rcases List.mem_map.mp isOne with ⟨port, _, rfl⟩
      exact portSpills_nonneg fails port) _ member
      (.portMemory (minorNumber + channel))
    have none := zero (.portMemory (minorNumber + channel)) not_false
    rw [portSpills, if_pos leaks] at below
    simp only [portsSpill] at none
    simp [one, none] at below
  · intro noLeak resource _
    have each : ∀ balance ∈ (List.range' minorNumber remaining).map
        (portSpills fails), balance = 0 := by
      intro balance member
      rcases List.mem_map.mp member with ⟨port, inLoop, rfl⟩
      have range := List.mem_range'_1.mp inLoop
      have isChannel : minorNumber + (port - minorNumber) = port := by omega
      have clean := noLeak (port - minorNumber) (by omega)
      rw [isChannel] at clean
      exact if_neg clean
    rw [portsSpill, List.sum_eq_zero each]
    rfl

variable (device : PciFunction)

theorem stoppedCard_nonneg : 0 ≤ stoppedCard fails device := by
  have mapped := mappings_nonneg device.pdev (mappedBars fails device)
  have memory := nonneg_one (DriverResource.cardMemory device.pdev)
  rw [stoppedCard]
  split
  · exact le_refl 0
  · split
    · split
      · exact memory
      · exact add_nonneg (add_nonneg memory (nonneg_one _)) mapped
    · exact add_nonneg memory mapped

theorem stoppedCard_cardMemory
    (memory : fails (.cardMemory device.pdev) = false) :
    0 < stoppedCard fails device (.cardMemory device.pdev) := by
  have mapped : mappings device.pdev (mappedBars fails device)
      (.cardMemory device.pdev) = 0 :=
    @mappings_of_not_stays (.cardMemory device.pdev) not_false _ _
  rw [stoppedCard, memory]
  by_cases fscc : device.cardType = .fscc
  · cases serial : fails (.serialPorts device.pdev) <;>
    simp [fscc, one, mapped]
  · simp [fscc, one, mapped]

theorem SetUp.spills_nonneg (setUp : SetUp) (minorNumber : Nat) :
    0 ≤ setUp.spills minorNumber := by
  rw [SetUp.spills, cardSpills]
  split
  · exact le_refl 0
  · split
    · exact add_nonneg (le_refl 0)
        (add_nonneg (mappings_nonneg _ _) (portsSpill_nonneg _ _ _))
    · exact add_nonneg (nonneg_one _) (stoppedCard_nonneg _ _)

theorem spilled_nonneg (setUps : List SetUp) (minorNumber : Nat) :
    0 ≤ spilled setUps minorNumber := by
  induction setUps generalizing minorNumber with
  | nil => exact le_refl 0
  | cons setUp later induction =>
      exact add_nonneg (setUp.spills_nonneg minorNumber) (induction _)

/-- What a set-up spills stays in any case exactly when the set-up is clean. -/
theorem SetUp.clean_iff (setUp : SetUp) (minorNumber : Nat) :
    (∀ resource : DriverResource, ¬resource.Stays →
        setUp.spills minorNumber resource = 0) ↔ setUp.Clean minorNumber := by
  rcases setUp with ⟨device, fails⟩
  cases enables : fails (.enable device.pdev) with
  | true => simp [SetUp.spills, SetUp.Clean, enables]
  | false =>
      cases memory : fails (.cardMemory device.pdev) with
      | true =>
          have stops : ¬ReachesLoop fails device := fun reaches => by
            cases memory.symm.trans reaches.1
          refine iff_of_true ?_ (.inr (.inl memory))
          intro resource goes
          have different : resource ≠ .enable device.pdev := by
            rintro rfl
            exact goes trivial
          simp [SetUp.spills, enables, stops, cardSpills, stoppedCard, memory,
            one_of_ne different]
      | false =>
          by_cases acquires : AcquiresCard fails device
          · have reaches : ReachesLoop fails device := ⟨memory, acquires⟩
            have ports : SetUp.ports ⟨device, fails⟩ minorNumber =
                cardPorts fails device minorNumber := by
              simp [SetUp.ports, enables]
            simp only [SetUp.Clean, enables, memory, acquires, ports,
              Bool.false_eq_true, false_or, true_and]
            rw [← portsSpill_eq_zero_iff]
            apply forall₂_congr
            intro resource goes
            simp [SetUp.spills, enables, reaches, cardSpills,
              mappings_of_not_stays goes]
          · have stops : ¬ReachesLoop fails device := fun reaches =>
              acquires reaches.2
            refine iff_of_false ?_ ?_
            · intro zero
              have left := stoppedCard_cardMemory fails device memory
              have none := zero (.cardMemory device.pdev) not_false
              simp only [SetUp.spills, enables, stops, cardSpills,
                Bool.false_eq_true, if_false, Pi.add_apply] at none
              rw [one_of_ne DriverResource.noConfusion] at none
              omega
            · rintro (disabled | forgotten | ⟨acquired, _⟩)
              · cases enables.symm.trans disabled
              · cases memory.symm.trans forgotten
              · exact acquires acquired

theorem allClean_iff (setUps : List SetUp) (minorNumber : Nat) :
    (∀ resource : DriverResource, ¬resource.Stays →
        spilled setUps minorNumber resource = 0) ↔
      AllClean setUps minorNumber := by
  induction setUps generalizing minorNumber with
  | nil => exact iff_of_true (fun _ _ => rfl) trivial
  | cons setUp later induction =>
      rw [AllClean, ← setUp.clean_iff, ← induction]
      have both : ∀ resource,
          spilled (setUp :: later) minorNumber resource = 0 ↔
            setUp.spills minorNumber resource = 0 ∧
              spilled later (minorNumber + setUp.ports minorNumber) resource = 0 :=
        fun resource => add_eq_zero_iff_of_nonneg
          (setUp.spills_nonneg minorNumber resource)
          (spilled_nonneg later _ resource)
      constructor
      · intro zero
        exact ⟨fun resource goes => ((both resource).mp (zero resource goes)).1,
          fun resource goes => ((both resource).mp (zero resource goes)).2⟩
      · rintro ⟨first, rest⟩ resource goes
        exact (both resource).mpr ⟨first resource goes, rest resource goes⟩

end Clean

section Sessions

variable {devices : List PciFunction} {answers : LoadAnswers}
  {events : List HotplugEvent} {before : CardLedger}
  {cards last : List CardRecord} {loaded plugged : Loaded}

theorem accounts_of_session
    (isOurs : ∀ setUp ∈ hotplugSetUps events,
      isSerialfcDevice setUp.device = true)
    (load : (serialfcInit devices []).runWith (moduleCall devices answers)
      (.fresh before) = some ((0, cards), loaded))
    (callbacks : carryOutAll events cards loaded = some (last, plugged)) :
    Accounts before (loadSetUps devices answers ++ hotplugSetUps events) last
      plugged :=
  (accounts_invariant before).session (fun _ => accounts_fresh) isOurs load callbacks

/-- After loading, any callbacks and unloading, the devices of the cards that
were left are still enabled, and what the set-ups spilled is still held. All
the rest is given back. -/
theorem serialfcExit_leaves
    (isOurs : ∀ setUp ∈ hotplugSetUps events,
      isSerialfcDevice setUp.device = true)
    (load : (serialfcInit devices []).runWith (moduleCall devices answers)
      (.fresh before) = some ((0, cards), loaded))
    (callbacks : carryOutAll events cards loaded = some (last, plugged)) :
    ∃ after, (serialfcExit last).runWith (moduleCall devices answers) plugged =
        some ([], after) ∧
      after.ledger = before + cardsEnable last +
        spilled (loadSetUps devices answers ++ hotplugSetUps events) 0 ∧
      after.hasClass = false ∧ after.hasChrdev = false ∧
      after.hasDriver = false ∧ after.bound = [] :=
  (accounts_of_session isOurs load callbacks).exit

def replugged : List HotplugEvent :=
  [.remove (fsccFunction 0),
    .probe (fsccFunction 1) fun resource => decide (resource = .sysfsGroup 3)]

def forgetsSecond : LoadAnswers where
  classCreate := none
  registerChrdev := 240
  pciRegisterDriver := 0
  probeFails _ := false
  fallbackFails resource := decide (resource = .cardMemory 0)

/-- The first device stays enabled for the fallback, the second for its card,
of whose ports only the second leaves something behind. -/
theorem serialfcExit_leaves_replugged :
    ∃ cards loaded last plugged after,
      (serialfcInit [fsccFunction 0] []).runWith
        (moduleCall [fsccFunction 0] forgetsSecond) (.fresh 0) =
          some ((0, cards), loaded) ∧
      carryOutAll replugged cards loaded = some (last, plugged) ∧
      (serialfcExit last).runWith (moduleCall [fsccFunction 0] forgetsSecond)
        plugged = some ([], after) ∧
      after.ledger (.enable 0) = 1 ∧ after.ledger (.enable 1) = 1 ∧
      after.ledger (.mapping 0 1) = 1 ∧ after.ledger (.portMemory 2) = 0 ∧
      after.ledger (.portMemory 3) = 1 := by
  have isOurs : ∀ setUp ∈ hotplugSetUps replugged,
      isSerialfcDevice setUp.device = true := by
    intro setUp member
    obtain rfl := List.mem_singleton.mp member
    rfl
  rcases @serialfcExit_leaves [fsccFunction 0] forgetsSecond replugged 0 _ _ _ _
    isOurs rfl rfl with ⟨after, unload, ledger, _⟩
  refine ⟨_, _, _, _, after, rfl, rfl, unload, ?_⟩
  rw [ledger]
  decide

/-- Everything that can be given back is, exactly when every set-up since the
module was loaded was clean. -/
theorem serialfcExit_returns_iff
    (isOurs : ∀ setUp ∈ hotplugSetUps events,
      isSerialfcDevice setUp.device = true)
    (load : (serialfcInit devices []).runWith (moduleCall devices answers)
      (.fresh before) = some ((0, cards), loaded))
    (callbacks : carryOutAll events cards loaded = some (last, plugged))
    {after : Loaded}
    (unload : (serialfcExit last).runWith (moduleCall devices answers) plugged =
      some ([], after)) :
    (∀ resource : DriverResource, ¬resource.Stays →
        after.ledger resource = before resource) ↔
      AllClean (loadSetUps devices answers ++ hotplugSetUps events) 0 := by
  rcases (accounts_of_session isOurs load callbacks).exit with
    ⟨same, run, ledger, _⟩
  obtain rfl : same = after := by
    simpa using run.symm.trans unload
  rw [← allClean_iff, ledger]
  apply forall₂_congr
  intro resource goes
  simp only [Pi.add_apply, cardsEnable_of_not_stays goes]
  omega

/-- Without the second device there is nothing left but its enabling and its
mappings. -/
theorem serialfcExit_returns_unplugged :
    ∃ cards loaded last plugged after,
      (serialfcInit [fsccFunction 0] []).runWith
        (moduleCall [fsccFunction 0] forgetsSecond) (.fresh 0) =
          some ((0, cards), loaded) ∧
      carryOutAll [.remove (fsccFunction 0)] cards loaded =
        some (last, plugged) ∧
      (serialfcExit last).runWith (moduleCall [fsccFunction 0] forgetsSecond)
        plugged = some ([], after) ∧
      ∀ resource : DriverResource, ¬resource.Stays →
        after.ledger resource = 0 := by
  have isOurs : ∀ setUp ∈ hotplugSetUps [.remove (fsccFunction 0)],
      isSerialfcDevice setUp.device = true := List.forall_mem_nil _
  have clean : AllClean (loadSetUps [fsccFunction 0] forgetsSecond ++
      hotplugSetUps [.remove (fsccFunction 0)]) 0 := by
    refine ⟨.inr (.inr ⟨by decide, ?_⟩), .inr (.inl rfl), trivial⟩
    rintro channel _ ⟨_, _, _, attributes⟩
    cases attributes
  refine ⟨_, _, _, _, _, rfl, rfl, rfl, ?_⟩
  exact (@serialfcExit_returns_iff [fsccFunction 0] forgetsSecond
    [.remove (fsccFunction 0)] 0 _ _ _ _ isOurs rfl rfl _ rfl).mpr clean

end Sessions

end SerialFc.Lifecycle
