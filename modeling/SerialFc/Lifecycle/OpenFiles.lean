import SerialFc.Lifecycle.DeviceNodes

/-! # What an open file points to

`serialfc_open` leaves a pointer to the port in the file and takes hold of nothing.
What belongs to the port is held as long as its card is on the list, and no longer,
whoever has it open.
-/

namespace SerialFc.Lifecycle

open Kernel Ledger

/-! ## Spills of other ports -/

section Spills

variable {minorNumber : Nat} {resource : DriverResource}

theorem portSpills_eq_zero (ofPort : resource.minorNumber = some minorNumber)
    {fails : DriverResource → Bool} {port : Nat}
    (whole : port = minorNumber → ¬PortLeaks fails port) :
    portSpills fails port resource = 0 := by
  rw [portSpills]
  split
  case isTrue leaks =>
    have different : minorNumber ≠ port := fun same => whole same.symm leaks
    cases resource <;> cases ofPort <;> simp [one, different]
  case isFalse => rfl

theorem spilled_eq_zero (ofPort : resource.minorNumber = some minorNumber)
    {setUps : List SetUp} {next : Nat}
    (apart : minorNumber < next ∨ next + portsUsed setUps next ≤ minorNumber) :
    spilled setUps next resource = 0 := by
  induction setUps generalizing next with
  | nil => rfl
  | cons setUp later induction =>
      rw [portsUsed] at apart
      have first : setUp.spills next resource = 0 :=
        spills_eq_zero ofPort fun port above below =>
          portSpills_eq_zero ofPort fun same => by omega
      have rest : spilled later (next + setUp.ports next) resource = 0 :=
        induction (by omega)
      rw [spilled, Pi.add_apply, first, rest, add_zero]

end Spills

/-! ## Ports along a session -/

/-- Nothing that belongs to a port of the list was ever spilled. -/
structure Whole (before : CardLedger) (setUps : List SetUp) (cards : List CardRecord)
    (loaded : Loaded) : Prop where
  accounts : Accounts before setUps cards loaded
  numbered : Numbered setUps cards loaded
  spared : ∀ port ∈ openPorts cards, ∀ resource : DriverResource,
    resource.minorNumber = some port.2 → spilled setUps 0 resource = 0

theorem whole_invariant (before : CardLedger) : SessionInvariant (Whole before) where
  agrees whole ledger minorNumber :=
    ⟨(accounts_invariant before).agrees whole.accounts ledger minorNumber,
      numbered_invariant.agrees whole.numbered ledger minorNumber, whole.spared⟩
  disabled whole failed := by
    refine ⟨(accounts_invariant before).disabled whole.accounts failed,
      numbered_invariant.disabled whole.numbered failed, ?_⟩
    intro port member resource ofPort
    rw [spilled_append, Pi.add_apply, whole.spared port member resource ofPort]
    simp [spilled, SetUp.spills, failed]
  setUp {setUps cards loaded fails device card} whole enables makes := by
    refine ⟨(accounts_invariant before).setUp whole.accounts enables makes,
      numbered_invariant.setUp whole.numbered enables makes, ?_⟩
    have number : loaded.minorNumber = 0 + portsUsed setUps 0 := by
      rw [whole.accounts.minorNumber, Nat.zero_add]
    intro port member resource ofPort
    rw [openPorts_append] at member
    rw [spilled_append, Pi.add_apply, ← number]
    rcases List.mem_append.mp member with old | new
    · have handed := whole.numbered.handed port old
      rw [whole.spared port old resource ofPort,
        spilled_eq_zero ofPort (.inl handed), add_zero]
    · cases card with
      | none => cases new
      | some record =>
          have made := makes.ports record rfl
          have own : port.2 ∈ record.ports := by
            have isPort : port ∈ record.ports.map (Prod.mk record) := by
              simpa [openPorts] using new
            rcases List.mem_map.mp isPort with ⟨minorNumber, isOwn, rfl⟩
            exact isOwn
          have inLoop := List.mem_range'_1.mp (made.numbers.subset own)
          have earlier : spilled setUps 0 resource = 0 :=
            spilled_eq_zero ofPort (.inr (by omega))
          have added : SetUp.spills ⟨device, fails⟩ loaded.minorNumber resource = 0 :=
            spills_eq_zero ofPort fun other _ _ =>
              portSpills_eq_zero ofPort fun same => same ▸ made.whole _ own
          simp [earlier, spilled, added]
  remove {_ cards _} device whole :=
    ⟨(accounts_invariant before).remove device whole.accounts,
      numbered_invariant.remove device whole.numbered,
      fun port member => whole.spared port
        ((openPorts_listDel device cards).subset member)⟩

section Sessions

variable {devices : List PciFunction} {answers : LoadAnswers}
  {events later : List HotplugEvent} {before : CardLedger}
  {cards listed last : List CardRecord} {loaded plugged ending : Loaded}

/-- Along a session, whatever belongs to a port that was opened is held once as long
as the port is on the list. Once it is not, nothing of the port is held, though the
file may still be open. -/
theorem openPort_held
    (isOurs : ∀ setUp ∈ hotplugSetUps (events ++ later),
      isSerialfcDevice setUp.device = true)
    (load : (serialfcInit devices []).runWith (moduleCall devices answers)
      (.fresh before) = some ((0, cards), loaded))
    (callbacks : carryOutAll events cards loaded = some (listed, plugged))
    (more : carryOutAll later listed plugged = some (last, ending))
    {majorNumber : Nat} {dev : BitVec 32} {port : CardRecord × Nat}
    (opened : serialfcOpen majorNumber listed plugged dev = some (.port port))
    {resource : DriverResource} (ofPort : resource.minorNumber = some port.2) :
    (port ∈ openPorts last → ending.ledger resource = before resource + 1) ∧
      (port ∉ openPorts last → ending.ledger resource = before resource) := by
  rw [hotplugSetUps_append] at isOurs
  rcases List.forall_mem_append.mp isOurs with ⟨ours, laterOurs⟩
  have wasOpen := (serialfcOpen_eq_port opened).1
  have whole := (whole_invariant before).session
    (fun setup number ledger => ⟨accounts_fresh number ledger,
      ⟨.nil, fun _ absent => by cases absent⟩, fun _ absent => by cases absent⟩)
    ours load callbacks
  have lastWhole := (whole_invariant before).carryOutAll whole laterOurs more
  have since := (since_invariant listed plugged.minorNumber).carryOutAll
    (⟨fun _ => .inl, le_refl _⟩ : Since listed plugged.minorNumber [] listed plugged)
    laterOurs more
  have handed := whole.numbered.handed port wasOpen
  have spared : spilled (loadSetUps devices answers ++ hotplugSetUps events ++
      hotplugSetUps later) 0 resource = 0 := by
    have number := whole.accounts.minorNumber
    rw [spilled_append, Pi.add_apply, whole.spared port wasOpen resource ofPort,
      spilled_eq_zero ofPort (.inl (by omega)), add_zero]
  have ledger : ending.ledger resource =
      before resource + ((openPorts last).map Prod.snd).count port.2 := by
    simp only [lastWhole.accounts.ledger, Pi.add_apply, spared,
      cardsHold_eq_count ofPort, cardsEnable_of_not_stays (not_stays_of_port ofPort),
      add_zero]
  constructor
  · intro listedStill
    have distinct : ((openPorts last).map Prod.snd).Nodup :=
      lastWhole.numbered.increasing.imp Nat.ne_of_lt
    rw [ledger, List.count_eq_one_of_mem distinct (List.mem_map_of_mem listedStill)]
    rfl
  · intro gone
    have absent : port.2 ∉ (openPorts last).map Prod.snd := by
      intro member
      rcases List.mem_map.mp member with ⟨other, isOther, same⟩
      rcases since.ports other isOther with old | new
      · have isPort :=
          port_eq_of_increasing whole.numbered.increasing old wasOpen same
        exact gone (isPort ▸ isOther)
      · omega
    rw [ledger, List.count_eq_zero.mpr absent]
    simp

/-- The memory of the second port goes with its card, whether its file is closed or
not. -/
theorem openPort_held_replugged :
    ∃ cards loaded last ending port,
      (serialfcInit [fsccFunction 0] []).runWith
        (moduleCall [fsccFunction 0] forgetsSecond) (.fresh 0) =
          some ((0, cards), loaded) ∧
      carryOutAll replugged cards loaded = some (last, ending) ∧
      serialfcOpen 240 cards loaded (mkdev 240 1) = some (.port port) ∧
      loaded.ledger (.portMemory 1) = 1 ∧ ending.ledger (.portMemory 1) = 0 := by
  have isOurs : ∀ setUp ∈ hotplugSetUps ([] ++ replugged),
      isSerialfcDevice setUp.device = true := by
    intro setUp member
    obtain rfl := List.mem_singleton.mp member
    rfl
  have held := @openPort_held [fsccFunction 0] forgetsSecond [] replugged 0 _ _ _ _ _
    _ isOurs rfl rfl rfl 240 (mkdev 240 1) _ rfl (.portMemory 1) rfl
  refine ⟨_, _, _, _, _, rfl, rfl, rfl, rfl, held.2 fun member => ?_⟩
  have number := @List.mem_map_of_mem _ _ _ _ Prod.snd member
  revert number
  decide

end Sessions

end SerialFc.Lifecycle
