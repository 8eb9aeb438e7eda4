import Mathlib.Data.List.Flatten
import SerialFc.Lifecycle.Unloading

/-! # What a device node opens

The kernel finds the `cdev` of a device number, and `serialfc_open` takes what is
around it for a port. Along a session every device number stands for one port at
most, which is still there when it is opened. The numbers of the region that the
module registers open without a port, too.
-/

namespace SerialFc.Lifecycle

open Kernel Ledger

/-! ## Device numbers -/

/-- `MKDEV`: the minor number is or-ed into the low 20 bits. -/
def mkdev (majorNumber minorNumber : Nat) : BitVec 32 :=
  BitVec.ofNat 32 majorNumber <<< 20 ||| BitVec.ofNat 32 minorNumber

theorem mkdev_inj {majorNumber first second : Nat} (firstSmall : first < 0x100000)
    (secondSmall : second < 0x100000)
    (same : mkdev majorNumber first = mkdev majorNumber second) : first = second := by
  have low : ∀ minorNumber < 0x100000,
      ((mkdev majorNumber minorNumber).setWidth 20).toNat = minorNumber := by
    intro minorNumber small
    have shifted : (BitVec.ofNat 32 majorNumber <<< 20).setWidth 20 = 0#20 := by
      ext index inRange
      simp
    rw [mkdev, BitVec.setWidth_or, shifted, BitVec.zero_or, BitVec.toNat_setWidth,
      BitVec.toNat_ofNat]
    omega
  rw [← low first firstSmall, same, low second secondSmall]

/-! ## Ports that can be opened -/

def openPorts (cards : List CardRecord) : List (CardRecord × Nat) :=
  cards.flatMap fun card => card.ports.map (Prod.mk card)

/-- What is around a `cdev`: a port, or the region of `register_chrdev`. -/
inductive CdevOwner
  | port (port : CardRecord × Nat)
  | region

/-- `register_chrdev` covers the minor numbers below. -/
def regionMinors : Nat := 256

/-- What `serialfc_open` takes for the port of a device number. The kernel
prefers the `cdev` of fewer numbers, which is the port's own. -/
def serialfcOpen (majorNumber : Nat) (cards : List CardRecord) (loaded : Loaded)
    (dev : BitVec 32) : Option CdevOwner :=
  match (openPorts cards).find? fun port => mkdev majorNumber port.2 = dev with
  | some port => some (.port port)
  | none =>
      if loaded.hasChrdev ∧
          ∃ minorNumber < regionMinors, mkdev majorNumber minorNumber = dev then
        some .region
      else none

section Lists

theorem openPorts_append (first second : List CardRecord) :
    openPorts (first ++ second) = openPorts first ++ openPorts second :=
  List.flatMap_append

theorem openPorts_listDel (device : PciFunction) (cards : List CardRecord) :
    (openPorts (listDel device cards)).Sublist (openPorts cards) :=
  List.eraseP_sublist.flatMap _

theorem openPorts_made {fails : DriverResource → Bool} {device : PciFunction}
    {minorNumber : Nat} {card : Option CardRecord}
    (makes : Makes fails device minorNumber card) :
    ((openPorts card.toList).map Prod.snd).Sublist
      (List.range' minorNumber (cardPorts fails device minorNumber)) := by
  cases card with
  | none => exact List.nil_sublist _
  | some record =>
      have own := (makes.ports record rfl).numbers
      simpa [openPorts, Function.comp_def] using own

end Lists

/-! ## Numbers along a session -/

/-- The ports of the list have minor numbers that go up, all handed out before. -/
structure Numbered (_ : List SetUp) (cards : List CardRecord) (loaded : Loaded) :
    Prop where
  increasing : ((openPorts cards).map Prod.snd).Pairwise (· < ·)
  handed : ∀ port ∈ openPorts cards, port.2 < loaded.minorNumber

theorem Loaded.minorNumber_remove (loaded : Loaded) (device : PciFunction)
    (cards : List CardRecord) :
    (loaded.remove device cards).minorNumber = loaded.minorNumber := by
  rw [Loaded.remove]
  split <;> rfl

theorem numbered_invariant : SessionInvariant Numbered where
  agrees numbered _ minorNumber :=
    ⟨numbered.increasing, fun port member =>
      minorNumber ▸ numbered.handed port member⟩
  disabled numbered _ := ⟨numbered.increasing, numbered.handed⟩
  setUp {_ cards loaded fails device card} numbered _ makes := by
    have made := openPorts_made makes
    have range : ∀ port ∈ openPorts card.toList, loaded.minorNumber ≤ port.2 ∧
        port.2 < loaded.minorNumber + cardPorts fails device loaded.minorNumber := by
      intro port member
      exact List.mem_range'_1.mp (made.subset (List.mem_map_of_mem member))
    constructor
    · rw [openPorts_append, List.map_append]
      refine List.pairwise_append.mpr ⟨numbered.increasing,
        List.Pairwise.sublist made (List.pairwise_lt_range' ..), ?_⟩
      intro first isFirst second isSecond
      rcases List.mem_map.mp isFirst with ⟨port, member, rfl⟩
      rcases List.mem_map.mp isSecond with ⟨other, otherMember, rfl⟩
      exact (numbered.handed port member).trans_le (range other otherMember).1
    · intro port member
      rw [openPorts_append] at member
      rcases List.mem_append.mp member with old | new
      · exact (numbered.handed port old).trans_le (Nat.le_add_right _ _)
      · exact (range port new).2
  remove {_ cards loaded} device numbered := by
    have fewer := openPorts_listDel device cards
    constructor
    · exact numbered.increasing.sublist (fewer.map Prod.snd)
    · intro port member
      rw [Loaded.minorNumber_remove]
      exact numbered.handed port (fewer.subset member)

/-- The ports of the list are those of earlier on, or have later numbers. -/
structure Since (earlier : List CardRecord) (minorNumber : Nat) (_ : List SetUp)
    (cards : List CardRecord) (loaded : Loaded) : Prop where
  ports : ∀ port ∈ openPorts cards,
    port ∈ openPorts earlier ∨ minorNumber ≤ port.2
  later : minorNumber ≤ loaded.minorNumber

theorem since_invariant (earlier : List CardRecord) (minorNumber : Nat) :
    SessionInvariant (Since earlier minorNumber) where
  agrees since _ number := ⟨since.ports, number ▸ since.later⟩
  disabled since _ := ⟨since.ports, since.later⟩
  setUp since _ makes := by
    refine ⟨?_, since.later.trans (Nat.le_add_right _ _)⟩
    intro port member
    rw [openPorts_append] at member
    rcases List.mem_append.mp member with old | new
    · exact since.ports port old
    · have made := (openPorts_made makes).subset (List.mem_map_of_mem new)
      exact .inr (since.later.trans (List.mem_range'_1.mp made).1)
  remove {_ cards loaded} device since := by
    refine ⟨fun port member => since.ports port
      ((openPorts_listDel device cards).subset member), ?_⟩
    rw [Loaded.minorNumber_remove]
    exact since.later

/-! ## The ledger -/

def DriverResource.minorNumber : DriverResource → Option Nat
  | .portMemory minorNumber | .nameMemory minorNumber | .deviceNode minorNumber
  | .sysfsGroup minorNumber | .cdev minorNumber => some minorNumber
  | .enable _ | .cardMemory _ | .serialPorts _ | .mapping .. => none

section Ledgers

variable {minorNumber : Nat} {resource : DriverResource}

theorem portHolds_eq (ofPort : resource.minorNumber = some minorNumber) (port : Nat) :
    portHolds port resource = if port = minorNumber then 1 else 0 := by
  by_cases same : port = minorNumber
  · subst same
    cases resource <;> cases ofPort <;> simp [portHolds, one]
  · cases resource <;> cases ofPort <;> simp [portHolds, one, same, Ne.symm same]

/-- What belongs to a port, the cards of a list hold once for each port of its
number. -/
theorem cardsHold_eq_count (ofPort : resource.minorNumber = some minorNumber)
    (cards : List CardRecord) :
    cardsHold cards resource = ((openPorts cards).map Prod.snd).count minorNumber := by
  have ports : ∀ numbers : List Nat,
      portsHold numbers resource = numbers.count minorNumber := by
    intro numbers
    induction numbers with
    | nil => rfl
    | cons port numbers induction =>
        change portHolds port resource + portsHold numbers resource = _
        rw [portHolds_eq ofPort, induction, List.count_cons]
        by_cases same : port = minorNumber
        · simp [same, add_comm]
        · simp [same]
  have notMemory : ∀ pdev, resource ≠ .cardMemory pdev := by
    rintro pdev rfl
    cases ofPort
  have notSerial : ∀ pdev, resource ≠ .serialPorts pdev := by
    rintro pdev rfl
    cases ofPort
  have card : ∀ card : CardRecord,
      card.holds resource = card.ports.count minorNumber := by
    intro card
    have serial : (if card.serialPriv = .null then 0
        else one (.serialPorts card.pdev) : CardLedger) resource = 0 := by
      split
      · rfl
      · exact one_of_ne (notSerial card.pdev)
    simp only [CardRecord.holds, Pi.add_apply, one_of_ne (notMemory card.pdev), serial,
      ports, zero_add]
  induction cards with
  | nil => rfl
  | cons first cards induction =>
      change first.holds resource + cardsHold cards resource = _
      rw [card, induction]
      simp [openPorts, List.count_append, Function.comp_def]

theorem not_stays_of_port (ofPort : resource.minorNumber = some minorNumber) :
    ¬resource.Stays := by
  cases resource <;> cases ofPort <;> exact not_false

theorem spills_eq_zero (ofPort : resource.minorNumber = some minorNumber)
    {setUp : SetUp} {next : Nat}
    (none : ∀ port, next ≤ port → port < next + setUp.ports next →
      portSpills setUp.fails port resource = 0) :
    setUp.spills next resource = 0 := by
  have goes := not_stays_of_port ofPort
  have notEnable : ∀ pdev, resource ≠ .enable pdev := by
    rintro pdev rfl
    cases ofPort
  have notMemory : ∀ pdev, resource ≠ .cardMemory pdev := by
    rintro pdev rfl
    cases ofPort
  have notSerial : ∀ pdev, resource ≠ .serialPorts pdev := by
    rintro pdev rfl
    cases ofPort
  have stopped : stoppedCard setUp.fails setUp.device resource = 0 := by
    rw [stoppedCard]
    split_ifs <;>
      simp [one_of_ne (notMemory _), one_of_ne (notSerial _),
        mappings_of_not_stays goes]
  rw [SetUp.spills, cardSpills]
  cases enables : setUp.fails (.enable setUp.device.pdev) with
  | true => simp
  | false =>
      by_cases reaches : ReachesLoop setUp.fails setUp.device
      · have loop : ∀ remaining first, next ≤ first →
            first + remaining ≤ next + setUp.ports next →
            portsSpill setUp.fails remaining first resource = 0 := by
          intro remaining
          induction remaining with
          | zero => exact fun _ _ _ => rfl
          | succ remaining induction =>
              intro first above below
              have rest := induction (first + 1) (by omega) (by omega)
              simp only [portsSpill, List.range'_succ, List.map_cons, List.sum_cons,
                Pi.add_apply, none first above (by omega), zero_add] at rest ⊢
              exact rest
        have whole := loop (setUp.ports next) next (le_refl _) (le_refl _)
        simp only [SetUp.ports, enables, Bool.false_eq_true, if_false] at whole
        simp [reaches, mappings_of_not_stays goes, whole]
      · simp [reaches, one_of_ne (notEnable _), stopped]

theorem spills_cdev (setUp : SetUp) (next : Nat) :
    setUp.spills next (.cdev minorNumber) = 0 := by
  refine @spills_eq_zero minorNumber _ rfl _ _ fun port _ _ => ?_
  rw [portSpills]
  split
  · simp [one]
  · rfl

theorem spilled_cdev (setUps : List SetUp) (next : Nat) :
    spilled setUps next (.cdev minorNumber) = 0 := by
  induction setUps generalizing next with
  | nil => rfl
  | cons setUp later induction =>
      simp [spilled, spills_cdev, induction]

end Ledgers

/-! ## Opening -/

section Opening

variable {majorNumber : Nat} {cards : List CardRecord} {loaded : Loaded}

theorem serialfcOpen_eq_port {dev : BitVec 32} {port : CardRecord × Nat}
    (opened : serialfcOpen majorNumber cards loaded dev = some (.port port)) :
    port ∈ openPorts cards ∧ mkdev majorNumber port.2 = dev := by
  rw [serialfcOpen] at opened
  split at opened
  case h_1 other found =>
    cases opened
    exact ⟨List.mem_of_find?_eq_some found, by simpa using List.find?_some found⟩
  case h_2 =>
    split at opened <;> cases opened

theorem port_eq_of_increasing
    (increasing : ((openPorts cards).map Prod.snd).Pairwise (· < ·))
    {port other : CardRecord × Nat} (member : port ∈ openPorts cards)
    (otherMember : other ∈ openPorts cards) (same : port.2 = other.2) :
    port = other := by
  have distinct : ((openPorts cards).map Prod.snd).Nodup :=
    increasing.imp Nat.ne_of_lt
  exact List.inj_on_of_nodup_map distinct member otherMember same

theorem serialfcOpen_of_mem
    (increasing : ((openPorts cards).map Prod.snd).Pairwise (· < ·))
    (small : ∀ port ∈ openPorts cards, port.2 < 0x100000)
    {port : CardRecord × Nat} (member : port ∈ openPorts cards) :
    serialfcOpen majorNumber cards loaded (mkdev majorNumber port.2) =
      some (.port port) := by
  rw [serialfcOpen]
  cases found : (openPorts cards).find? fun other =>
      mkdev majorNumber other.2 = mkdev majorNumber port.2 with
  | none =>
      have absent := List.find?_eq_none.mp found port member
      simp at absent
  | some other =>
      have otherMember := List.mem_of_find?_eq_some found
      have same : mkdev majorNumber other.2 = mkdev majorNumber port.2 := by
        simpa using List.find?_some found
      have number := mkdev_inj (small other otherMember) (small port member) same
      rw [port_eq_of_increasing increasing otherMember member number]

theorem serialfcOpen_of_absent
    (small : ∀ port ∈ openPorts cards, port.2 < 0x100000) {minorNumber : Nat}
    (inRange : minorNumber < 0x100000)
    (absent : minorNumber ∉ (openPorts cards).map Prod.snd) :
    serialfcOpen majorNumber cards loaded (mkdev majorNumber minorNumber) =
      if loaded.hasChrdev ∧ minorNumber < regionMinors then some .region
      else none := by
  have notFound : (openPorts cards).find? (fun port =>
      mkdev majorNumber port.2 = mkdev majorNumber minorNumber) = none := by
    apply List.find?_eq_none.mpr
    intro port member found
    have number := mkdev_inj (small port member) inRange (by simpa using found)
    exact absent (number ▸ List.mem_map_of_mem member)
  have inRegion : (∃ other < regionMinors,
      mkdev majorNumber other = mkdev majorNumber minorNumber) ↔
        minorNumber < regionMinors := by
    constructor
    · rintro ⟨other, below, same⟩
      have otherInRange : other < 0x100000 := below.trans (by decide)
      exact mkdev_inj otherInRange inRange same ▸ below
    · intro below
      exact ⟨minorNumber, below, rfl⟩
  simp only [serialfcOpen, notFound, inRegion]

end Opening

/-! ## The region along a session -/

section Sessions

variable {devices : List PciFunction} {answers : LoadAnswers}
  {events later : List HotplugEvent} {before : CardLedger}
  {cards listed last : List CardRecord} {loaded plugged ending : Loaded}

theorem perform_hasChrdev {α : Type} {fails : DriverResource → Bool}
    {program : Kernel α} {value : α}
    (performed : loaded.perform fails program = some (value, plugged)) :
    plugged.hasChrdev = loaded.hasChrdev := by
  rw [Loaded.perform] at performed
  split at performed <;> cases performed
  rfl

theorem deviceCall_hasChrdev {fails : DriverResource → Bool} {call : DeviceCall}
    {response : call.Response}
    (called : deviceCall fails call loaded = some (response, plugged)) :
    plugged.hasChrdev = loaded.hasChrdev := by
  cases call with
  | pciEnableDevice | pciDisableDevice | serialfcCardDelete =>
      rw [deviceCall] at called
      exact perform_hasChrdev called
  | serialfcCardNew device =>
      rw [deviceCall] at called
      split at called
      case h_1 card next middle performed =>
        have same := perform_hasChrdev performed
        cases called
        exact same
      case h_2 => cases called

theorem carryOut_hasChrdev {event : HotplugEvent}
    (carried : event.carryOut cards loaded = some (listed, plugged)) :
    plugged.hasChrdev = loaded.hasChrdev := by
  have keeps : ∀ {α : Type} {fails : DriverResource → Bool}
      {callback : Callback α} {value : α} {after : Loaded},
      callback.runWith (deviceCall fails) loaded = some (value, after) →
      after.hasChrdev = loaded.hasChrdev := by
    intro α fails callback value after run
    refine Program.runWith_preserves
      (fun state => state.hasChrdev = loaded.hasChrdev) ?_
      callback.performs_all run rfl
    intro command _ state response next called same
    exact (deviceCall_hasChrdev called).trans same
  cases event with
  | probe device fails =>
      rw [HotplugEvent.carryOut] at carried
      split at carried
      case h_1 run =>
        have same := keeps run
        cases carried
        exact same
      case h_2 => cases carried
  | remove device =>
      rw [HotplugEvent.carryOut] at carried
      split at carried
      case h_1 run =>
        have same := keeps run
        cases carried
        exact same
      case h_2 => cases carried

theorem carryOutAll_hasChrdev
    (carried : carryOutAll events cards loaded = some (listed, plugged)) :
    plugged.hasChrdev = loaded.hasChrdev := by
  induction events generalizing cards loaded with
  | nil =>
      cases carried
      rfl
  | cons event events induction =>
      rw [carryOutAll] at carried
      split at carried
      case h_1 first => exact (induction carried).trans (carryOut_hasChrdev first)
      case h_2 => cases carried

theorem initDevices_performs (enumerated : List PciFunction) (numDevices : Nat)
    (cards : List CardRecord) :
    (initDevices enumerated numDevices cards).Performs fun call =>
      ∃ inner, call = .device inner := by
  induction enumerated generalizing numDevices cards with
  | nil => trivial
  | cons device enumerated induction =>
      rw [initDevices, Program.performs_ite]
      refine ⟨fun _ => ?_, fun _ => induction _ _⟩
      rw [Program.performs_perform_bind]
      refine ⟨⟨_, rfl⟩, fun enables => ?_⟩
      rw [Program.performs_ite]
      refine ⟨fun _ => ?_, fun _ => trivial⟩
      rw [Program.performs_perform_bind]
      exact ⟨⟨_, rfl⟩, fun card => induction _ _⟩

theorem initFallback_hasChrdev
    (run : (initFallback devices cards).runWith (moduleCall devices answers)
      loaded = some ((0, listed), plugged)) :
    plugged.hasChrdev = loaded.hasChrdev := by
  rw [initFallback, Program.runWith_bind] at run
  cases loop : (initDevices (commtechDevices devices) 0 cards).runWith
      (moduleCall devices answers) loaded with
  | none =>
      rw [loop] at run
      cases run
  | some result =>
      have same : result.2.hasChrdev = loaded.hasChrdev := by
        refine Program.runWith_preserves
          (fun state => state.hasChrdev = loaded.hasChrdev) ?_
          (initDevices_performs ..) loop rfl
        rintro _ ⟨inner, rfl⟩ state response next called same
        exact (deviceCall_hasChrdev called).trans same
      rcases result with ⟨⟨_ | numDevices, left⟩, middle⟩
      · rw [loop] at run
        cases run
      · rw [loop] at run
        by_cases none : numDevices = 0
        · -- Without a device the function returns `-ENODEV`.
          simp only [if_pos none, Program.runWith_bind,
            Program.runWith_perform_done, moduleCall] at run
          split at run <;> cases run
        · simp only [if_neg none] at run
          cases run
          exact same

/-- A load that returns 0 has registered the region once it has the class. -/
theorem load_hasChrdev
    (load : (serialfcInit devices []).runWith (moduleCall devices answers)
      (.fresh before) = some ((0, cards), loaded)) :
    loaded.hasChrdev = answers.classCreate.isNone := by
  rw [serialfcInit] at load
  cases noError : answers.classCreate with
  | some error =>
      simp only [Program.runWith_bind, Program.runWith_perform_done, moduleCall,
        noError] at load
      cases load
      rfl
  | none =>
      by_cases chrdev : answers.registerChrdev < 0
      · simp only [Program.runWith_bind, Program.runWith_perform_done,
          moduleCall, noError, if_pos chrdev, Program.runWith_pure,
          Option.some.injEq, Prod.mk.injEq] at load
        omega
      · have registered : decide (0 ≤ answers.registerChrdev) = true := by
          simpa using chrdev
        by_cases driver : answers.pciRegisterDriver = 0
        · simp only [Program.runWith_bind, Program.runWith_perform_done,
            moduleCall, noError, if_neg chrdev, if_pos driver] at load
          cases carried : carryOutAll ((probed devices).map fun device =>
              .probe device answers.probeFails) [] _ with
          | none =>
              rw [carried] at load
              cases load
          | some result =>
              rw [carried] at load
              exact (initFallback_hasChrdev load).trans
                ((carryOutAll_hasChrdev carried).trans registered)
        · simp only [Program.runWith_bind, Program.runWith_perform_done,
            moduleCall, noError, if_neg chrdev, if_neg driver] at load
          split at load
          · simp only [Program.runWith_bind, Program.runWith_perform_done,
              moduleCall, Program.runWith_pure, Option.some.injEq,
              Prod.mk.injEq] at load
            omega
          · cases load
            exact registered

theorem hotplugSetUps_append (first second : List HotplugEvent) :
    hotplugSetUps (first ++ second) = hotplugSetUps first ++ hotplugSetUps second :=
  List.filterMap_append

/-- A `cdev` of its own for each port of the list, and no others. -/
theorem Accounts.cdevs {setUps : List SetUp}
    (accounts : Accounts before setUps listed plugged) (minorNumber : Nat) :
    plugged.ledger (.cdev minorNumber) = before (.cdev minorNumber) +
      ((openPorts listed).map Prod.snd).count minorNumber := by
  have count := @cardsHold_eq_count minorNumber (.cdev minorNumber) rfl listed
  simp only [accounts.ledger, Pi.add_apply, count,
    @cardsEnable_of_not_stays (.cdev minorNumber) not_false, spilled_cdev]
  simp

theorem Accounts.holds_port {setUps : List SetUp}
    (accounts : Accounts before setUps listed plugged) {port : CardRecord × Nat}
    (isPort : port ∈ openPorts listed) {resource : DriverResource}
    (ofPort : resource.minorNumber = some port.2) :
    before resource < plugged.ledger resource := by
  have count := cardsHold_eq_count ofPort listed
  have held : 0 < ((openPorts listed).map Prod.snd).count port.2 :=
    List.count_pos_iff.mpr (List.mem_map_of_mem isPort)
  have spills := spilled_nonneg setUps 0 resource
  simp only [accounts.ledger, Pi.add_apply, count,
    cardsEnable_of_not_stays (not_stays_of_port ofPort)]
  simp only [Pi.zero_apply] at spills
  omega

/-- While a session hands out no more numbers than a device number has room for:
a port on the list is opened under its own number and has a `cdev` there. Under
any other number there is no `cdev` of a port, and only those of the region open.
The memory of a port that is opened is held, and no other port is ever opened
under its number later. -/
theorem serialfcOpen_session
    (isOurs : ∀ setUp ∈ hotplugSetUps (events ++ later),
      isSerialfcDevice setUp.device = true)
    (load : (serialfcInit devices []).runWith (moduleCall devices answers)
      (.fresh before) = some ((0, cards), loaded))
    (callbacks : carryOutAll events cards loaded = some (listed, plugged))
    (more : carryOutAll later listed plugged = some (last, ending))
    (few : ending.minorNumber ≤ 0x100000) (majorNumber : Nat) :
    (∀ port ∈ openPorts listed,
        serialfcOpen majorNumber listed plugged (mkdev majorNumber port.2) =
          some (.port port) ∧
        plugged.ledger (.cdev port.2) = before (.cdev port.2) + 1) ∧
      (∀ minorNumber < 0x100000, minorNumber ∉ (openPorts listed).map Prod.snd →
        plugged.ledger (.cdev minorNumber) = before (.cdev minorNumber) ∧
        serialfcOpen majorNumber listed plugged (mkdev majorNumber minorNumber) =
          if answers.classCreate = none ∧ minorNumber < regionMinors then
            some .region
          else none) ∧
      ∀ dev port, serialfcOpen majorNumber listed plugged dev = some (.port port) →
        before (.portMemory port.2) < plugged.ledger (.portMemory port.2) ∧
        ∀ other, serialfcOpen majorNumber last ending dev = some (.port other) →
          other = port := by
  rw [hotplugSetUps_append] at isOurs
  rcases List.forall_mem_append.mp isOurs with ⟨ours, laterOurs⟩
  have accounts := accounts_of_session ours load callbacks
  have numbered := numbered_invariant.session
    (fun setup _ _ => ⟨.nil, fun _ absent => by cases absent⟩) ours load callbacks
  have lastNumbered := numbered_invariant.carryOutAll numbered laterOurs more
  have since := (since_invariant listed plugged.minorNumber).carryOutAll
    (⟨fun _ => .inl, le_refl _⟩ : Since listed plugged.minorNumber [] listed plugged)
    laterOurs more
  have lastSmall : ∀ port ∈ openPorts last, port.2 < 0x100000 :=
    fun port member => (lastNumbered.handed port member).trans_le few
  have small : ∀ port ∈ openPorts listed, port.2 < 0x100000 :=
    fun port member => (numbered.handed port member).trans_le (since.later.trans few)
  have distinct : ((openPorts listed).map Prod.snd).Nodup :=
    numbered.increasing.imp Nat.ne_of_lt
  refine ⟨?_, ?_, ?_⟩
  · intro port isPort
    refine ⟨serialfcOpen_of_mem numbered.increasing small isPort, ?_⟩
    rw [accounts.cdevs, List.count_eq_one_of_mem distinct (List.mem_map_of_mem isPort)]
    rfl
  · intro minorNumber inRange absent
    constructor
    · rw [accounts.cdevs, List.count_eq_zero.mpr absent]
      simp
    · rw [serialfcOpen_of_absent small inRange absent,
        carryOutAll_hasChrdev callbacks, load_hasChrdev load]
      simp only [Option.isNone_iff_eq_none]
  · intro dev port opened
    rcases serialfcOpen_eq_port opened with ⟨isPort, rfl⟩
    refine ⟨accounts.holds_port isPort rfl, ?_⟩
    intro other reopened
    rcases serialfcOpen_eq_port reopened with ⟨isOther, same⟩
    have number := mkdev_inj (lastSmall other isOther) (small port isPort) same
    rcases since.ports other isOther with old | new
    · exact port_eq_of_increasing numbered.increasing old isPort number
    · have handed := numbered.handed port isPort
      omega

/-- The second port of the first card is the one under its number, and no port of
the card that replaces it will be: the number then opens in the region. -/
theorem serialfcOpen_session_replugged :
    ∃ cards loaded last ending port,
      (serialfcInit [fsccFunction 0] []).runWith
        (moduleCall [fsccFunction 0] forgetsSecond) (.fresh 0) =
          some ((0, cards), loaded) ∧
      carryOutAll replugged cards loaded = some (last, ending) ∧
      serialfcOpen 240 cards loaded (mkdev 240 1) = some (.port port) ∧
      port.2 = 1 ∧ loaded.ledger (.cdev 1) = 1 ∧
      0 < loaded.ledger (.portMemory 1) ∧
      (∀ other, serialfcOpen 240 last ending (mkdev 240 1) = some (.port other) →
        other = port) ∧
      serialfcOpen 240 last ending (mkdev 240 1) = some .region := by
  have isOurs : ∀ setUp ∈ hotplugSetUps ([] ++ replugged),
      isSerialfcDevice setUp.device = true := by
    intro setUp member
    obtain rfl := List.mem_singleton.mp member
    rfl
  rcases @serialfcOpen_session [fsccFunction 0] forgetsSecond [] replugged 0 _ _ _ _ _
    _ isOurs rfl rfl rfl (by decide) 240 with ⟨ports, _, opened⟩
  rcases @serialfcOpen_session [fsccFunction 0] forgetsSecond replugged [] 0 _ _ _ _ _
    _ isOurs rfl rfl rfl (by decide) 240 with ⟨_, others, _⟩
  rcases opened (mkdev 240 1) _ rfl with ⟨held, later⟩
  have known := (ports _ (.tail _ (.head _))).2
  exact ⟨_, _, _, _, _, rfl, rfl, rfl, rfl, known, held, later,
    (others 1 (by decide) (by decide)).2⟩

end Sessions

end SerialFc.Lifecycle
