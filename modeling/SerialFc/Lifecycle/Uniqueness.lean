import SerialFc.Lifecycle.Cleanup

/-! # One card for each device

`serialfc_cards` is searched by device, and a removal takes out the first
match. The list has one card for each device as long as nothing sets up a
device that has one already.
-/

namespace SerialFc.Lifecycle

inductive PciEvent
  | probe (device : PciFunction) (attempt : Attempt)
  | remove (device : PciFunction)

namespace PciEvent

def program (cards : List CardRecord) : PciEvent → Callback (List CardRecord)
  | .probe device _ => do
      let (_, cards) ← fcProbe device cards
      pure cards
  | .remove device => fcRemove device cards

def machine : PciEvent → Machine DeviceCall DeviceCall.Response Enabled
  | .probe _ attempt => deviceMachine fun _ => attempt
  | .remove _ => deviceMachine fun _ => ⟨false, none⟩

def cardsAfter (event : PciEvent) (cards : List CardRecord) (enabled : Enabled) :
    List CardRecord :=
  ((event.machine.run (event.program cards) enabled).1).getD cards

def enabledAfter (event : PciEvent) (cards : List CardRecord)
    (enabled : Enabled) : Enabled :=
  (event.machine.run (event.program cards) enabled).2

def SetsUp (pdev : Nat) : PciEvent → Prop
  | .probe device attempt =>
      device.pdev = pdev ∧ MakesCard (fun _ => attempt) device
  | .remove _ => False

def Removes (pdev : Nat) : PciEvent → Prop
  | .probe _ _ => False
  | .remove device => device.pdev = pdev

def TakesOut (after : List CardRecord) : PciEvent → Prop
  | .probe _ _ => True
  | .remove device => device.pdev ∉ cardDevices after

end PciEvent

/-- There is one card at most for each device, now and after each callback,
and none after it is removed. -/
def StaysUnique : List PciEvent → List CardRecord → Enabled → Prop
  | [], cards, _ => (cardDevices cards).Nodup
  | event :: events, cards, enabled =>
      (cardDevices cards).Nodup ∧ event.TakesOut (event.cardsAfter cards enabled) ∧
        StaysUnique events (event.cardsAfter cards enabled)
          (event.enabledAfter cards enabled)

/-- A device is removed before it is set up again. The devices in `held` are
set up at first. -/
structure SetUpsApart (held : List Nat) (events : List PciEvent) : Prop where
  first : ∀ pdev ∈ held, ∀ before setUp, before ++ [setUp] <+: events →
    setUp.SetsUp pdev → ∃ removal ∈ before, removal.Removes pdev
  later : ∀ pdev previous between setUp,
    previous :: (between ++ [setUp]) <:+: events →
    previous.SetsUp pdev → setUp.SetsUp pdev →
    ∃ removal ∈ between, removal.Removes pdev

def OneCardEach (devices : List PciFunction) (answers : Answers)
    (events : List PciEvent) : Prop :=
  ∀ cards setup,
    (initMachine devices answers).run (serialfcInit devices []) .none =
      (some (0, cards), setup) →
    StaysUnique events cards setup.enabled

/-! ## One callback -/

section Callbacks

variable (cards : List CardRecord) (enabled : Enabled)

theorem cardsAfter_probe (device : PciFunction) (attempt : Attempt) :
    (PciEvent.probe device attempt).cardsAfter cards enabled =
      cards ++ made (fun _ => attempt) device := by
  rcases run_fcProbe (fun _ => attempt) device cards enabled with ⟨next, run⟩
  simp [PciEvent.cardsAfter, PciEvent.machine, PciEvent.program, run]

theorem cardsAfter_remove (device : PciFunction) :
    (PciEvent.remove device).cardsAfter cards enabled = listDel device cards := by
  simp only [PciEvent.cardsAfter, PciEvent.machine, PciEvent.program, fcRemove]
  cases found : serialfcCardFind device cards with
  | none =>
      have absent := List.find?_eq_none.mp found
      exact (List.eraseP_of_forall_not absent).symm
  | some card => rfl

theorem cardDevices_listDel (device : PciFunction) :
    cardDevices (listDel device cards) =
      (cardDevices cards).erase device.pdev := by
  induction cards with
  | nil => rfl
  | cons card cards induction =>
      by_cases same : card.pdev = device.pdev
      · simp [listDel, cardDevices, same]
      · have different : ¬(card.pdev == device.pdev) = true := by simpa using same
        have rest : listDel device (card :: cards) =
            card :: listDel device cards := by
          simp [listDel, same]
        rw [rest]
        simp only [cardDevices, List.map_cons] at induction ⊢
        rw [List.erase_cons_tail different, induction]

end Callbacks

theorem PciEvent.cardDevices_cardsAfter_probe (cards : List CardRecord)
    (enabled : Enabled) (device : PciFunction) (attempt : Attempt) :
    cardDevices ((PciEvent.probe device attempt).cardsAfter cards enabled) =
      cardDevices cards ++
        if MakesCard (fun _ => attempt) device then [device.pdev] else [] := by
  rw [cardsAfter_probe, cardDevices_append, cardDevices_made]

theorem PciEvent.nodup_cardsAfter_iff (event : PciEvent) {cards : List CardRecord}
    (unique : (cardDevices cards).Nodup) (enabled : Enabled) :
    (cardDevices (event.cardsAfter cards enabled)).Nodup ↔
      ∀ pdev ∈ cardDevices cards, ¬event.SetsUp pdev := by
  cases event with
  | probe device attempt =>
      rw [PciEvent.cardDevices_cardsAfter_probe]
      by_cases makes : MakesCard (fun _ => attempt) device
      · simp only [if_pos makes, List.nodup_append, unique,
          List.nodup_singleton, true_and, List.mem_singleton]
        constructor
        · rintro apart pdev member ⟨rfl, _⟩
          exact apart _ member _ rfl rfl
        · rintro fresh other member _ rfl same
          exact fresh other member ⟨same.symm, makes⟩
      · simp [makes, PciEvent.SetsUp, unique]
  | remove device =>
      rw [cardsAfter_remove, cardDevices_listDel]
      exact iff_of_true (unique.erase _) fun _ _ impossible => impossible

theorem PciEvent.mem_cardsAfter_iff (event : PciEvent) {cards : List CardRecord}
    (unique : (cardDevices cards).Nodup) (enabled : Enabled) (pdev : Nat) :
    pdev ∈ cardDevices (event.cardsAfter cards enabled) ↔
      event.SetsUp pdev ∨ pdev ∈ cardDevices cards ∧ ¬event.Removes pdev := by
  cases event with
  | probe device attempt =>
      rw [PciEvent.cardDevices_cardsAfter_probe]
      by_cases makes : MakesCard (fun _ => attempt) device
      · simp [makes, PciEvent.SetsUp, PciEvent.Removes, or_comm, eq_comm]
      · simp [makes, PciEvent.SetsUp, PciEvent.Removes]
  | remove device =>
      rw [cardsAfter_remove, cardDevices_listDel, unique.mem_erase_iff]
      simp [PciEvent.SetsUp, PciEvent.Removes, and_comm, eq_comm]

theorem PciEvent.takesOut_of_nodup (event : PciEvent) {cards : List CardRecord}
    (unique : (cardDevices cards).Nodup) (enabled : Enabled) :
    event.TakesOut (event.cardsAfter cards enabled) := by
  cases event with
  | probe device attempt => trivial
  | remove device =>
      rw [PciEvent.TakesOut, cardsAfter_remove, cardDevices_listDel]
      exact unique.not_mem_erase

theorem StaysUnique.nodup {events : List PciEvent} {cards : List CardRecord}
    {enabled : Enabled} (stays : StaysUnique events cards enabled) :
    (cardDevices cards).Nodup := by
  cases events with
  | nil => exact stays
  | cons event events => exact stays.1

/-! ## A run of callbacks -/

/-- The condition on a run, one callback at a time: `after` are the devices
that are set up after the first. -/
theorem setUpsApart_cons {held after : List Nat} {event : PciEvent}
    {events : List PciEvent}
    (next : ∀ pdev, pdev ∈ after ↔
      event.SetsUp pdev ∨ pdev ∈ held ∧ ¬event.Removes pdev) :
    SetUpsApart held (event :: events) ↔
      (∀ pdev ∈ held, ¬event.SetsUp pdev) ∧ SetUpsApart after events := by
  constructor
  · rintro ⟨first, later⟩
    refine ⟨?_, ?_, ?_⟩
    · intro pdev member setsUp
      rcases first pdev member [] event (by simp) setsUp with ⟨_, absent, _⟩
      cases absent
    · intro pdev member before setUp isPrefix setsUp
      have longer : event :: (before ++ [setUp]) <+: event :: events :=
        List.cons_prefix_cons.mpr ⟨rfl, isPrefix⟩
      rcases (next pdev).mp member with again | ⟨atFirst, kept⟩
      · exact later pdev event before setUp longer.isInfix again setsUp
      · rcases first pdev atFirst (event :: before) setUp longer setsUp with
          ⟨removal, among, removes⟩
        rcases List.mem_cons.mp among with rfl | inBefore
        · exact absurd removes kept
        · exact ⟨removal, inBefore, removes⟩
    · intro pdev previous between setUp isInfix
      exact later pdev previous between setUp (List.infix_cons isInfix)
  · rintro ⟨fresh, first, later⟩
    constructor
    · intro pdev member before setUp isPrefix setsUp
      cases before with
      | nil =>
          obtain ⟨rfl, -⟩ := List.cons_prefix_cons.mp isPrefix
          exact absurd setsUp (fresh pdev member)
      | cons head before =>
          obtain ⟨rfl, rest⟩ := List.cons_prefix_cons.mp isPrefix
          by_cases removes : head.Removes pdev
          · exact ⟨head, List.mem_cons_self, removes⟩
          · rcases first pdev ((next pdev).mpr (.inr ⟨member, removes⟩)) before
              setUp rest setsUp with ⟨removal, among, removed⟩
            exact ⟨removal, List.mem_cons_of_mem _ among, removed⟩
    · intro pdev previous between setUp isInfix again setsUp
      rcases List.infix_cons_iff.mp isInfix with isPrefix | inEvents
      · obtain ⟨rfl, rest⟩ := List.cons_prefix_cons.mp isPrefix
        exact first pdev ((next pdev).mpr (.inl again)) between setUp rest setsUp
      · exact later pdev previous between setUp inEvents again setsUp

theorem setUpsApart_of_not_setsUp (held : List Nat) {events : List PciEvent}
    (none : ∀ event ∈ events, ∀ pdev, ¬event.SetsUp pdev) :
    SetUpsApart held events where
  first pdev _ before setUp isPrefix setsUp :=
    absurd setsUp (none setUp (isPrefix.subset (by simp)) pdev)
  later pdev previous between setUp isInfix _ setsUp :=
    absurd setsUp (none setUp (isInfix.subset (by simp)) pdev)

theorem staysUnique_iff (events : List PciEvent) {cards : List CardRecord}
    (unique : (cardDevices cards).Nodup) (enabled : Enabled) :
    StaysUnique events cards enabled ↔
      SetUpsApart (cardDevices cards) events := by
  induction events generalizing cards enabled with
  | nil =>
      exact iff_of_true unique
        (setUpsApart_of_not_setsUp _ (List.forall_mem_nil _))
  | cons event events induction =>
      rw [setUpsApart_cons (event.mem_cardsAfter_iff unique enabled)]
      constructor
      · rintro ⟨_, _, later⟩
        refine ⟨(event.nodup_cardsAfter_iff unique enabled).mp later.nodup, ?_⟩
        exact (induction later.nodup _).mp later
      · rintro ⟨fresh, later⟩
        have next := (event.nodup_cardsAfter_iff unique enabled).mpr fresh
        exact ⟨unique, event.takesOut_of_nodup unique enabled,
          (induction next _).mpr later⟩

/-! ## Initialisation -/

section Initialisation

variable {devices : List PciFunction} {answers : Answers}

/-- No device that a probe gave a card is given another in the fallback. -/
def SetUpOnce (devices : List PciFunction) (answers : Answers) : Prop :=
  ∀ device ∈ probed devices, MakesCard answers.probe device →
    ¬MakesCard answers.fallback device

def initialCards (devices : List PciFunction) (answers : Answers) :
    List CardRecord :=
  (probed devices).flatMap (made answers.probe) ++
    (fallbackDevices devices).flatMap (made answers.fallback)

instance Answers.decidableRegisters (answers : Answers) :
    Decidable answers.Registers :=
  inferInstanceAs (Decidable (_ ∧ _))

def initialDevices (devices : List PciFunction) (answers : Answers) : List Nat :=
  if answers.Registers then cardDevices (initialCards devices answers) else []

/-- Initialisation returns 0: past the loop, or before it for an error of 0 and for
a registration that answers above 0, which is neither a failure nor a success. -/
def Answers.Loads (answers : Answers) (devices : List PciFunction) : Prop :=
  answers.classCreate = some 0 ∨
    answers.classCreate = none ∧ 0 ≤ answers.registerChrdev ∧
      (0 < answers.pciRegisterDriver ∨
        answers.pciRegisterDriver = 0 ∧
          AllEnable answers (fallbackDevices devices) ∧
          fallbackDevices devices ≠ [])

theorem mem_fallbackDevices {device : PciFunction} :
    device ∈ fallbackDevices devices ↔
      device ∈ devices ∧ device.pciDev.vendor = commtechVendorId ∧
        isSerialfcDevice device = true := by
  simp [fallbackDevices, commtechDevices, and_comm]

theorem mem_fallbackDevices_of_probed {device : PciFunction}
    (member : device ∈ probed devices) : device ∈ fallbackDevices devices := by
  rw [mem_fallbackDevices]
  simp only [probed, matchesIdTable, List.mem_filter, Bool.and_eq_true,
    decide_eq_true_eq] at member
  exact ⟨member.1, member.2.1.1⟩

theorem nodup_initialCards_iff (once : (devices.map PciFunction.pdev).Nodup) :
    (cardDevices (initialCards devices answers)).Nodup ↔
      SetUpOnce devices answers := by
  have probedOnce : (((probed devices).filter fun device =>
      MakesCard answers.probe device).map PciFunction.pdev).Nodup :=
    once.sublist ((List.filter_sublist.trans List.filter_sublist).map _)
  have fallbackOnce : (((fallbackDevices devices).filter fun device =>
      MakesCard answers.fallback device).map PciFunction.pdev).Nodup :=
    once.sublist ((List.filter_sublist.trans
      (List.filter_sublist.trans List.filter_sublist)).map _)
  have sameDevice := List.inj_on_of_nodup_map once
  rw [initialCards, cardDevices_append, cardDevices_flatMap_made,
    cardDevices_flatMap_made, List.nodup_append]
  constructor
  · rintro ⟨_, _, apart⟩ device member fromProbe fromFallback
    have again := mem_fallbackDevices_of_probed member
    refine apart device.pdev ?_ device.pdev ?_ rfl
    · exact List.mem_map_of_mem (List.mem_filter.mpr ⟨member, by simpa⟩)
    · exact List.mem_map_of_mem (List.mem_filter.mpr ⟨again, by simpa⟩)
  · intro setUpOnce
    refine ⟨probedOnce, fallbackOnce, ?_⟩
    intro first firstMember second secondMember equal
    rcases List.mem_map.mp firstMember with ⟨device, fromProbe, rfl⟩
    rcases List.mem_map.mp secondMember with ⟨other, fromFallback, rfl⟩
    rcases List.mem_filter.mp fromProbe with ⟨member, makes⟩
    rcases List.mem_filter.mp fromFallback with ⟨otherMember, otherMakes⟩
    have present := (mem_fallbackDevices.mp
      (mem_fallbackDevices_of_probed member)).1
    have otherPresent := (mem_fallbackDevices.mp otherMember).1
    rcases sameDevice present otherPresent equal with rfl
    exact setUpOnce device member (by simpa using makes) (by simpa using otherMakes)

theorem run_serialfcInit_of_enable (registers : answers.Registers)
    (enable : AllEnable answers (fallbackDevices devices))
    (present : fallbackDevices devices ≠ []) :
    ∃ setup, (initMachine devices answers).run (serialfcInit devices []) .none =
      (some (0, initialCards devices answers), setup) := by
  rcases run_initFallback_of_enable
    (probeAll answers.probe (probed devices) [] .registered).2
    (probeAll answers.probe (probed devices) [] .registered).1 enable present
    with ⟨setup, run⟩
  refine ⟨setup, ?_⟩
  rw [run_serialfcInit_of_registers registers, run, probeAll_cards]
  rfl

theorem Answers.loads_iff_of_not_registers (fails : ¬answers.Registers) :
    answers.Loads devices ↔ answers.classCreate = some 0 ∨
      answers.classCreate = none ∧ 0 ≤ answers.registerChrdev ∧
        0 < answers.pciRegisterDriver := by
  constructor
  · rintro (noClass | ⟨noError, chrdev, positive | ⟨driver, _⟩⟩)
    · exact .inl noClass
    · exact .inr ⟨noError, chrdev, positive⟩
    · exact absurd ⟨noError, chrdev, driver⟩ fails
  · rintro (noClass | ⟨noError, chrdev, positive⟩)
    · exact .inl noClass
    · exact .inr ⟨noError, chrdev, .inl positive⟩

theorem run_serialfcInit_of_loads (loads : answers.Loads devices) :
    ∃ cards setup,
      (initMachine devices answers).run (serialfcInit devices []) .none =
        (some (0, cards), setup) ∧
      cardDevices cards = initialDevices devices answers := by
  by_cases registers : answers.Registers
  · rw [initialDevices, if_pos registers]
    rcases loads with noClass | ⟨_, _, positive | ⟨_, enable, present⟩⟩
    · rw [registers.1] at noClass
      cases noClass
    · rw [registers.2.2] at positive
      cases positive
    · rcases run_serialfcInit_of_enable registers enable present with ⟨setup, run⟩
      exact ⟨_, setup, run, rfl⟩
  · rw [initialDevices, if_neg registers]
    rcases run_serialfcInit_of_not_registers registers with
      ⟨status, exit, _, returnsZero⟩
    obtain rfl := returnsZero.mpr
      ((Answers.loads_iff_of_not_registers registers).mp loads)
    exact ⟨[], _, Prod.ext exit rfl, rfl⟩

theorem loads_of_run_serialfcInit {cards : List CardRecord} {setup : Setup}
    (run : (initMachine devices answers).run (serialfcInit devices []) .none =
      (some (0, cards), setup)) :
    answers.Loads devices := by
  by_cases registers : answers.Registers
  · rw [run_serialfcInit_of_registers registers] at run
    refine .inr ⟨registers.1, registers.2.1, .inr ⟨registers.2.2, ?_, ?_⟩⟩
    · by_contra fails
      rcases run_initFallback_of_fails _ _ fails with ⟨left, next, _, early⟩
      rw [early] at run
      obtain ⟨⟨impossible, -⟩, -⟩ := by simpa using run
      exact absurd impossible (by decide)
    · intro none
      rw [probed_eq_nil none] at run
      have exit := (run_initFallback_of_none none).symm.trans run
      obtain ⟨⟨impossible, -⟩, -⟩ := by simpa using exit
      exact absurd impossible (by decide)
  · rcases run_serialfcInit_of_not_registers registers with
      ⟨status, exit, _, returnsZero⟩
    rw [run] at exit
    obtain ⟨rfl, -⟩ := by simpa using exit
    exact (Answers.loads_iff_of_not_registers registers).mpr (returnsZero.mp rfl)

theorem nodup_initialDevices (once : (devices.map PciFunction.pdev).Nodup)
    (loads : answers.Loads devices)
    (setUpOnce : answers.Registers →
      AllEnable answers (fallbackDevices devices) → SetUpOnce devices answers) :
    (initialDevices devices answers).Nodup := by
  rw [initialDevices]
  split
  next registers =>
    rcases loads with noClass | ⟨_, _, positive | ⟨_, enable, _⟩⟩
    · rw [registers.1] at noClass
      cases noClass
    · rw [registers.2.2] at positive
      cases positive
    · exact (nodup_initialCards_iff once).mpr (setUpOnce registers enable)
  next => exact List.nodup_nil

end Initialisation

/-- The list holds one card for each device exactly when no device is set up
twice in initialisation and none after it without a removal in between. -/
theorem oneCardEach_iff (devices : List PciFunction) (answers : Answers)
    (events : List PciEvent) (once : (devices.map PciFunction.pdev).Nodup) :
    OneCardEach devices answers events ↔
      (answers.Registers → AllEnable answers (fallbackDevices devices) →
        SetUpOnce devices answers) ∧
      (answers.Loads devices →
        SetUpsApart (initialDevices devices answers) events) := by
  constructor
  · intro oneEach
    constructor
    · intro registers enable
      by_cases none : fallbackDevices devices = []
      · intro device member
        rw [probed_eq_nil none] at member
        cases member
      · rcases run_serialfcInit_of_enable registers enable none with
          ⟨setup, run⟩
        exact (nodup_initialCards_iff once).mp (oneEach _ _ run).nodup
    · intro loads
      rcases run_serialfcInit_of_loads loads with ⟨cards, setup, run, same⟩
      have stays := oneEach cards setup run
      rw [← same]
      exact (staysUnique_iff events stays.nodup _).mp stays
  · rintro ⟨setUpOnce, apart⟩ cards setup run
    have loads := loads_of_run_serialfcInit run
    rcases run_serialfcInit_of_loads loads with ⟨_, _, again, same⟩
    obtain ⟨⟨-, rfl⟩, rfl⟩ := by simpa using run.symm.trans again
    have unique := nodup_initialDevices once loads setUpOnce
    rw [← same] at unique
    apply (staysUnique_iff events unique _).mpr
    rw [same]
    exact apart loads

/-- A device that the probe gives a card and the fallback none, unplugged
later. -/
theorem oneCardEach_unplugged :
    OneCardEach [fsccFunction 0]
      ⟨none, 240, 0, fun _ => ⟨true, some ⟨0, .valid, [0, 1]⟩⟩,
        fun _ => ⟨true, none⟩⟩ [.remove (fsccFunction 0)] := by
  apply (oneCardEach_iff _ _ _ (by decide)).mpr
  constructor
  · intro _ _ device _ _ fromFallback
    exact Bool.false_ne_true fromFallback.2
  · intro _
    apply setUpsApart_of_not_setsUp
    intro event member pdev
    rcases List.mem_singleton.mp member with rfl
    exact id

def setUpTwice : Answers where
  classCreate := none
  registerChrdev := 240
  pciRegisterDriver := 0
  probe device := ⟨true, some ⟨device.pdev, .valid, [0, 1]⟩⟩
  fallback device := ⟨true, some ⟨device.pdev, .valid, [2, 3]⟩⟩

theorem not_oneCardEach :
    ¬∀ devices answers events, (devices.map PciFunction.pdev).Nodup →
      OneCardEach devices answers events := by
  intro oneEach
  have registers : setUpTwice.Registers := ⟨rfl, by decide, rfl⟩
  have enable : AllEnable setUpTwice (fallbackDevices [fsccFunction 0]) :=
    fun _ _ => rfl
  rcases run_serialfcInit_of_enable registers enable (List.cons_ne_nil _ _) with
    ⟨setup, run⟩
  have unique := (oneEach [fsccFunction 0] setUpTwice [] (by decide) _ _ run).nodup
  have twice : cardDevices (initialCards [fsccFunction 0] setUpTwice) = [0, 0] :=
    rfl
  rw [twice] at unique
  exact absurd unique (by decide)

end SerialFc.Lifecycle
