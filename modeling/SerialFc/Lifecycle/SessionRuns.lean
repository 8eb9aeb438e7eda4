import SerialFc.Lifecycle.Session

/-! # What holds along a session

A set-up puts at most one card on the list, with ports of the next minor numbers,
and a removal takes one off. What both keep holds from loading on.
-/

namespace SerialFc.Lifecycle

open Kernel Ledger

/-! ## Set-ups and removals -/

structure Makes (fails : DriverResource → Bool) (device : PciFunction)
    (minorNumber : Nat) (card : Option CardRecord) : Prop where
  made : card.isSome ↔ ReachesLoop fails device
  pdev : ∀ record ∈ card, record.pdev = device.pdev
  ports : ∀ record ∈ card, PortsMade fails
    (List.range' minorNumber (cardPorts fails device minorNumber)) record.ports

namespace Loaded

variable (loaded : Loaded)

def setUp (fails : DriverResource → Bool) (device : PciFunction)
    (card : Option CardRecord) : Loaded :=
  { loaded with
    ledger := loaded.ledger + one (.enable device.pdev) +
      (cardsHold card.toList + cardSpills fails device loaded.minorNumber)
    minorNumber := loaded.minorNumber + cardPorts fails device loaded.minorNumber }

def remove (device : PciFunction) (cards : List CardRecord) : Loaded :=
  match serialfcCardFind device cards with
  | none => loaded
  | some card => { loaded with
      ledger := loaded.ledger + -card.holds + -one (.enable device.pdev) }

end Loaded

/-- Kept by set-ups and removals, whatever else is registered or bound. -/
structure SessionInvariant
    (holds : List SetUp → List CardRecord → Loaded → Prop) : Prop where
  agrees : ∀ {setUps cards loaded other}, holds setUps cards loaded →
    other.ledger = loaded.ledger → other.minorNumber = loaded.minorNumber →
    holds setUps cards other
  disabled : ∀ {setUps cards loaded fails} {device : PciFunction},
    holds setUps cards loaded → fails (.enable device.pdev) = true →
    holds (setUps ++ [⟨device, fails⟩]) cards loaded
  setUp : ∀ {setUps cards loaded fails device card}, holds setUps cards loaded →
    fails (.enable device.pdev) = false →
    Makes fails device loaded.minorNumber card →
    holds (setUps ++ [⟨device, fails⟩]) (cards ++ card.toList)
      (loaded.setUp fails device card)
  remove : ∀ {setUps cards loaded} (device : PciFunction),
    holds setUps cards loaded →
    holds setUps (listDel device cards) (loaded.remove device cards)

/-! ## Calls -/

section Calls

variable {loaded : Loaded} {fails : DriverResource → Bool} {device : PciFunction}

theorem perform_of_adds {α : Type} {program : Kernel α} {value : α}
    {balance : CardLedger} (adds : Adds fails program (some value) balance)
    (loaded : Loaded) :
    loaded.perform fails program =
      some (value, { loaded with ledger := loaded.ledger + balance }) := by
  rw [Loaded.perform, adds loaded.ledger]

theorem perform_eq_none {α : Type} {program : Kernel α}
    (traps : ((kernelMachine fails).run program loaded.ledger).1 = none) :
    loaded.perform fails program = none := by
  rw [Loaded.perform]
  rcases run : (kernelMachine fails).run program loaded.ledger with
    ⟨_ | value, ledger⟩
  · rfl
  · rw [run] at traps
    cases traps

theorem deviceCall_enable (enables : fails (.enable device.pdev) = false) :
    deviceCall fails (.pciEnableDevice device) loaded =
      some (true, { loaded with
        ledger := loaded.ledger + one (.enable device.pdev) }) :=
  perform_of_adds (Adds.acquire enables) loaded

theorem deviceCall_enable_of_fails (failed : fails (.enable device.pdev) = true) :
    deviceCall fails (.pciEnableDevice device) loaded = some (false, loaded) := by
  have performed := perform_of_adds (Adds.acquire_of_fails failed) loaded
  rwa [add_zero] at performed

theorem deviceCall_cardNew {numPorts : Nat}
    (board : boardNumPorts device.pciDev.device = some numPorts)
    {card : Option CardRecord} {after : Loaded}
    (call : deviceCall fails (.serialfcCardNew device) { loaded with
      ledger := loaded.ledger + one (.enable device.pdev) } = some (card, after)) :
    Makes fails device loaded.minorNumber card ∧
      after = loaded.setUp fails device card := by
  rw [deviceCall] at call
  by_cases reaches : ReachesLoop fails device
  · by_cases traps : SomePortTraps fails loaded.minorNumber numPorts
    · have trapped := (run_serialfcCardNew_eq_none_iff fails device
        loaded.minorNumber board
        (loaded.ledger + one (.enable device.pdev))).mpr
        ⟨reaches.1, reaches.2, traps⟩
      rw [perform_eq_none trapped] at call
      cases call
    · rcases adds_serialfcCardNew_of_reaches board reaches traps with
        ⟨ports, own, adds⟩
      rw [perform_of_adds adds] at call
      cases call
      refine ⟨⟨iff_of_true rfl reaches, ?_, ?_⟩, ?_⟩
      · rintro record ⟨⟩
        rfl
      · rintro record ⟨⟩
        exact own
      · simp [Loaded.setUp, cardsHold]
  · rw [perform_of_adds (adds_serialfcCardNew_of_stops board reaches _)] at call
    cases call
    refine ⟨⟨iff_of_false (by simp) reaches, ?_, ?_⟩, ?_⟩
    · rintro record ⟨⟩
    · rintro record ⟨⟩
    · simp [Loaded.setUp, cardsHold, reaches, cardSpills,
        cardPorts_of_stops fails device _ reaches]

theorem board_of_isSerialfcDevice (isOurs : isSerialfcDevice device = true) :
    ∃ numPorts, boardNumPorts device.pciDev.device = some numPorts := by
  have known : (serialfcIds.all fun id => (boardNumPorts id).isSome) = true := by
    decide
  exact Option.isSome_iff_exists.mp
    (List.all_eq_true.mp known _ (List.contains_iff_mem.mp isOurs))

end Calls

/-! ## Callbacks -/

section Callbacks

variable {holds : List SetUp → List CardRecord → Loaded → Prop}
  (invariant : SessionInvariant holds) {setUps : List SetUp}
  {cards : List CardRecord} {loaded : Loaded} (held : holds setUps cards loaded)
include invariant held

theorem SessionInvariant.probe {device : PciFunction}
    (isOurs : isSerialfcDevice device = true)
    {fails : DriverResource → Bool} {after : List CardRecord} {next : Loaded}
    (carried : (HotplugEvent.probe device fails).carryOut cards loaded =
      some (after, next)) :
    holds (setUps ++ [⟨device, fails⟩]) after next := by
  rcases board_of_isSerialfcDevice isOurs with ⟨numPorts, board⟩
  rw [HotplugEvent.carryOut] at carried
  cases enables : fails (.enable device.pdev) with
  | true =>
      simp only [fcProbe, Program.runWith_bind, Program.runWith_perform_done,
        deviceCall_enable_of_fails enables, Bool.false_eq_true, if_false,
        Program.runWith_pure, Option.some.injEq, Prod.mk.injEq] at carried
      rcases carried with ⟨rfl, rfl⟩
      exact invariant.agrees (invariant.disabled held enables) rfl rfl
  | false =>
      simp only [fcProbe, Program.runWith_bind, Program.runWith_perform_done,
        deviceCall_enable enables, if_true] at carried
      cases call : deviceCall fails (.serialfcCardNew device) { loaded with
          ledger := loaded.ledger + one (.enable device.pdev) } with
      | none =>
          rw [call] at carried
          cases carried
      | some result =>
          rcases result with ⟨card, made⟩
          rw [call] at carried
          cases carried
          rcases deviceCall_cardNew board call with ⟨makes, rfl⟩
          exact invariant.agrees (invariant.setUp held enables makes) rfl rfl

theorem SessionInvariant.removal (device : PciFunction) :
    ∃ next, (HotplugEvent.remove device).carryOut cards loaded =
        some (listDel device cards, next) ∧
      holds setUps (listDel device cards) next := by
  have removed := invariant.remove device held
  rw [HotplugEvent.carryOut, fcRemove]
  cases found : serialfcCardFind device cards with
  | none =>
      have absent := List.find?_eq_none.mp found
      have same : listDel device cards = cards :=
        List.eraseP_of_forall_not absent
      rw [same]
      exact ⟨_, rfl, invariant.agrees held rfl rfl⟩
  | some card =>
      have deletes := perform_of_adds
        (@adds_serialfcCardDelete (fun _ => false) card) loaded
      have disables := perform_of_adds
        (@Adds.release DriverResource _ (fun _ => false) (.enable device.pdev))
        { loaded with ledger := loaded.ledger + -card.holds }
      simp only [Program.runWith_bind, Program.runWith_perform_done, deviceCall,
        deletes, disables, Program.runWith_pure]
      simp only [Loaded.remove, found] at removed
      exact ⟨_, rfl, invariant.agrees removed rfl rfl⟩

theorem SessionInvariant.carryOutAll {events : List HotplugEvent}
    (isOurs : ∀ setUp ∈ hotplugSetUps events,
      isSerialfcDevice setUp.device = true)
    {after : List CardRecord} {next : Loaded}
    (carried : carryOutAll events cards loaded = some (after, next)) :
    holds (setUps ++ hotplugSetUps events) after next := by
  induction events generalizing setUps cards loaded with
  | nil =>
      cases carried
      rwa [hotplugSetUps, List.filterMap_nil, List.append_nil]
  | cons event events induction =>
      rw [SerialFc.Lifecycle.carryOutAll] at carried
      cases event with
      | probe device fails =>
          cases first : (HotplugEvent.probe device fails).carryOut cards loaded with
          | none =>
              rw [first] at carried
              cases carried
          | some result =>
              rw [first] at carried
              have probed := invariant.probe held (isOurs _ List.mem_cons_self) first
              have later := induction probed
                (fun setUp member => isOurs setUp (List.mem_cons_of_mem _ member))
                carried
              rwa [List.append_assoc] at later
      | remove device =>
          rcases invariant.removal held device with ⟨middle, first, removed⟩
          rw [first] at carried
          exact induction removed isOurs carried

end Callbacks

/-! ## Loading -/

theorem isSerialfcDevice_of_probed {devices : List PciFunction}
    {device : PciFunction} (member : device ∈ probed devices) :
    isSerialfcDevice device = true := by
  simp only [probed, matchesIdTable, List.mem_filter, Bool.and_eq_true] at member
  exact member.2.1.1.2

theorem hotplugSetUps_probes (fails : DriverResource → Bool)
    (found : List PciFunction) :
    hotplugSetUps (found.map fun device => .probe device fails) =
      found.map fun device => ⟨device, fails⟩ := by
  rw [hotplugSetUps, List.filterMap_map]
  exact congrFun (@List.filterMap_eq_map _ _ fun device => SetUp.mk device fails)
    found

section Loading

variable {holds : List SetUp → List CardRecord → Loaded → Prop}
  (invariant : SessionInvariant holds) {setUps : List SetUp}
  {cards : List CardRecord} {loaded : Loaded} {devices : List PciFunction}
  {answers : LoadAnswers}
include invariant

theorem SessionInvariant.initDevices (held : holds setUps cards loaded)
    {enumerated : List PciFunction} {numDevices count : Nat}
    {after : List CardRecord} {next : Loaded}
    (run : (initDevices enumerated numDevices cards).runWith
      (moduleCall devices answers) loaded = some ((some count, after), next)) :
    holds (setUps ++ (enumerated.filter isSerialfcDevice).map
      fun device => ⟨device, answers.fallbackFails⟩) after next := by
  induction enumerated generalizing setUps cards loaded numDevices with
  | nil =>
      cases run
      rwa [List.filter_nil, List.map_nil, List.append_nil]
  | cons device enumerated induction =>
      rw [SerialFc.Lifecycle.initDevices] at run
      cases isOurs : isSerialfcDevice device with
      | false =>
          rw [List.filter_cons_of_neg (by simp [isOurs])]
          rw [isOurs] at run
          exact induction held run
      | true =>
          rw [List.filter_cons_of_pos isOurs, List.map_cons]
          rcases board_of_isSerialfcDevice isOurs with ⟨numPorts, board⟩
          rw [if_pos isOurs] at run
          cases enables : answers.fallbackFails (.enable device.pdev) with
          | true =>
              -- Here the function returns `-EIO`.
              simp only [Program.runWith_bind, Program.runWith_perform_done,
                moduleCall, deviceCall_enable_of_fails enables,
                Bool.false_eq_true, if_false] at run
              cases run
          | false =>
              simp only [Program.runWith_bind, Program.runWith_perform_done,
                moduleCall, deviceCall_enable enables, if_true] at run
              cases call : deviceCall answers.fallbackFails
                  (.serialfcCardNew device) { loaded with
                    ledger := loaded.ledger + one (.enable device.pdev) } with
              | none =>
                  rw [call] at run
                  cases run
              | some result =>
                  rcases result with ⟨card, made⟩
                  rw [call] at run
                  rcases deviceCall_cardNew board call with ⟨makes, rfl⟩
                  have later := induction (invariant.setUp held enables makes) run
                  rwa [List.append_assoc] at later

theorem SessionInvariant.registerDriver (held : holds setUps cards loaded)
    {after : List CardRecord} {next : Loaded}
    (carried : SerialFc.Lifecycle.carryOutAll ((probed devices).map fun device =>
      .probe device answers.probeFails) cards loaded = some (after, next)) :
    holds (setUps ++ (probed devices).map fun device =>
      ⟨device, answers.probeFails⟩) after next := by
  have isOurs : ∀ setUp ∈ hotplugSetUps ((probed devices).map fun device =>
      .probe device answers.probeFails), isSerialfcDevice setUp.device = true := by
    intro setUp member
    rw [hotplugSetUps_probes] at member
    rcases List.mem_map.mp member with ⟨device, isProbed, rfl⟩
    exact isSerialfcDevice_of_probed isProbed
  have probes := invariant.carryOutAll held isOurs carried
  rwa [hotplugSetUps_probes] at probes

theorem SessionInvariant.initFallback (held : holds setUps cards loaded)
    {after : List CardRecord} {next : Loaded}
    (run : (initFallback devices cards).runWith (moduleCall devices answers)
      loaded = some ((0, after), next)) :
    holds (setUps ++ (fallbackDevices devices).map fun device =>
      ⟨device, answers.fallbackFails⟩) after next := by
  rw [SerialFc.Lifecycle.initFallback, Program.runWith_bind] at run
  cases loop : (SerialFc.Lifecycle.initDevices (commtechDevices devices) 0
      cards).runWith (moduleCall devices answers) loaded with
  | none =>
      rw [loop] at run
      cases run
  | some result =>
      rcases result with ⟨⟨_ | numDevices, left⟩, middle⟩
      · rw [loop] at run
        cases run
      · rw [loop] at run
        by_cases none : numDevices = 0
        · -- Without a device the function returns `-ENODEV`.
          simp only [if_pos none, Program.runWith_bind,
            Program.runWith_perform_done, moduleCall] at run
          split at run
          · cases run
          · cases run
        · simp only [if_neg none] at run
          cases run
          exact invariant.initDevices held loop

theorem SessionInvariant.load {before : CardLedger}
    (fresh : ∀ setup : Loaded, setup.minorNumber = 0 → setup.ledger = before →
      holds [] [] setup)
    (load : (serialfcInit devices []).runWith (moduleCall devices answers)
      (.fresh before) = some ((0, cards), loaded)) :
    holds (loadSetUps devices answers) cards loaded := by
  rw [serialfcInit] at load
  cases noError : answers.classCreate with
  | some error =>
      have noSetUps : loadSetUps devices answers = [] :=
        if_neg fun registers => by
          rw [registers.1] at noError
          cases noError
      simp only [Program.runWith_bind, Program.runWith_perform_done, moduleCall,
        noError, Program.runWith_pure, Option.some.injEq, Prod.mk.injEq] at load
      rcases load with ⟨⟨-, rfl⟩, rfl⟩
      rw [noSetUps]
      exact fresh _ rfl rfl
  | none =>
      by_cases chrdev : answers.registerChrdev < 0
      · simp only [Program.runWith_bind, Program.runWith_perform_done,
          moduleCall, noError, if_pos chrdev, Program.runWith_pure,
          Option.some.injEq, Prod.mk.injEq] at load
        omega
      · by_cases driver : answers.pciRegisterDriver = 0
        · have registers : answers.Registers := ⟨noError, by omega, driver⟩
          rw [loadSetUps, if_pos registers]
          simp only [Program.runWith_bind, Program.runWith_perform_done,
            moduleCall, noError, if_neg chrdev, if_pos driver] at load
          cases carried : SerialFc.Lifecycle.carryOutAll ((probed devices).map
              fun device => .probe device answers.probeFails) [] _ with
          | none =>
              rw [carried] at load
              cases load
          | some result =>
              rcases result with ⟨found, registered⟩
              rw [carried] at load
              exact invariant.initFallback
                (invariant.registerDriver (fresh _ rfl rfl) carried) load
        · have noSetUps : loadSetUps devices answers = [] :=
            if_neg fun registers => driver registers.2.2
          rw [noSetUps]
          simp only [Program.runWith_bind, Program.runWith_perform_done,
            moduleCall, noError, if_neg chrdev, if_neg driver] at load
          split at load
          · simp only [Program.runWith_bind, Program.runWith_perform_done,
              moduleCall, Program.runWith_pure, Option.some.injEq,
              Prod.mk.injEq] at load
            omega
          · cases load
            exact fresh _ rfl rfl

theorem SessionInvariant.session {before : CardLedger} {events : List HotplugEvent}
    {last : List CardRecord} {plugged : Loaded}
    (fresh : ∀ setup : Loaded, setup.minorNumber = 0 → setup.ledger = before →
      holds [] [] setup)
    (isOurs : ∀ setUp ∈ hotplugSetUps events,
      isSerialfcDevice setUp.device = true)
    (load : (serialfcInit devices []).runWith (moduleCall devices answers)
      (.fresh before) = some ((0, cards), loaded))
    (callbacks : SerialFc.Lifecycle.carryOutAll events cards loaded =
      some (last, plugged)) :
    holds (loadSetUps devices answers ++ hotplugSetUps events) last plugged :=
  invariant.carryOutAll (invariant.load fresh load) isOurs callbacks

end Loading

end SerialFc.Lifecycle
