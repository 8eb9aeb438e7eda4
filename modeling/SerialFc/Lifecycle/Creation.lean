import SerialFc.Abstract.Runs
import SerialFc.Foundation.Joint
import SerialFc.Lifecycle.PortNames

/-! # The making of a card as a whole

`serialfc_card_new` and `serialfc_port_new` take resources from the kernel and set up
the registers of the card in between. A port that comes to nothing leaves the others
as they would be without it.
-/

namespace SerialFc.Creation

open Lifecycle Lifecycle.Kernel

abbrev Maker :=
  Joint (@ResourceCall.Response DriverResource) Access.Response

/-! ## Ports -/

def serialfcPortNew (fsccEnableAsync : Bool) (port : Port) (minorNumber : Nat) :
    Maker (Option Nat) := do
  let memory ← (kmalloc (.portMemory minorNumber)).onFirst
  if memory = .null then
    pure none
  else
    let name ← (kmalloc (.nameMemory minorNumber)).onFirst
    if name = .null then
      (kfree (.portMemory minorNumber)).onFirst
      pure none
    else
      let device ← (deviceCreate minorNumber).onFirst
      if device = .null then
        (deviceDestroy minorNumber).onFirst
        (kfree (.nameMemory minorNumber)).onFirst
        (kfree (.portMemory minorNumber)).onFirst
        pure none
      else
        -- From here the attributes are there, before what they show is set up.
        if ← (sysfsCreateGroup device minorNumber).onFirst then
          (SerialFc.serialfcPortNew fsccEnableAsync port).onSecond
          if ← (cdevAdd minorNumber).onFirst then
            -- The revisions are read for a message.
            if fastcomGetCardType port = .fscc then
              let _ ← (fsccGetPrev port).onSecond
              let _ ← (fsccGetFrev port).onSecond
            pure (some minorNumber)
          else
            (deviceDestroy minorNumber).onFirst
            (kfree (.nameMemory minorNumber)).onFirst
            (kfree (.portMemory minorNumber)).onFirst
            pure none
        else
          pure none

/-! ## Cards -/

def newPorts (fsccEnableAsync : Bool) (card : Card) :
    Nat → Nat → Nat → Maker (List Nat × Nat)
  | 0, _, minorNumber => pure ([], minorNumber)
  | remaining + 1, channel, minorNumber => do
      let port ← serialfcPortNew fsccEnableAsync ⟨card, channel⟩ minorNumber
      let (ports, next) ←
        newPorts fsccEnableAsync card remaining (channel + 1) (minorNumber + 1)
      pure (port.toList ++ ports, next)

def finishCard (fsccEnableAsync : Bool) (device : PciFunction) (serialPriv : Pointer)
    (minorNumber : Nat) : Maker (Option CardRecord × Nat) :=
  match boardNumPorts device.pciDev.device with
  | none => .trap
  | some numPorts => do
      let (ports, next) ←
        newPorts fsccEnableAsync ⟨device.pciDev, numPorts⟩ numPorts 0 minorNumber
      pure (some ⟨device.pdev, serialPriv, ports⟩, next)

def serialfcCardNew (fsccEnableAsync : Bool) (device : PciFunction)
    (minorNumber : Nat) : Maker (Option CardRecord × Nat) := do
  let card ← (kmalloc (.cardMemory device.pdev)).onFirst
  if card = .null then
    pure (none, minorNumber)
  else
    let serialPriv ← (initSerialPorts device).onFirst
    if serialPriv = .error then
      pure (none, minorNumber)
    else
      if ← (mapBars device).onFirst then
        finishCard fsccEnableAsync device serialPriv minorNumber
      else
        pure (none, minorNumber)

abbrev machine (fails : DriverResource → Bool) (type : CardType) :=
  (kernelMachine fails).joint (cardMachine type)

/-! ## What is configured -/

section Configured

variable (fails : DriverResource → Bool)

/-- The port gets its attributes, and with them its configuration. -/
def Configures (minorNumber : Nat) : Prop :=
  fails (.portMemory minorNumber) = false ∧ fails (.nameMemory minorNumber) = false ∧
    fails (.deviceNode minorNumber) = false ∧ fails (.sysfsGroup minorNumber) = false

instance (minorNumber : Nat) : Decidable (Configures fails minorNumber) :=
  inferInstanceAs (Decidable (_ ∧ _))

def configuredChannels (device : PciFunction) (minorNumber : Nat) : List Nat :=
  (List.range (cardPorts fails device minorNumber)).filter fun channel =>
    Configures fails (minorNumber + channel)

end Configured

/-! ## One port -/

section Ports

variable {fails : DriverResource → Bool} {fsccEnableAsync : Bool} {minorNumber : Nat}
  {port : Port}

theorem run_configure
    (board : boardNumPorts port.card.pciDev.device = some port.card.numPorts)
    (isPort : port.channel < port.card.numPorts) (state : CardState) :
    ∃ next, port.card.machine.run (SerialFc.serialfcPortNew fsccEnableAsync port) state =
        (some (), next) ∧ ReportsDefaults port next := by
  have range := boardNumPorts_range port.card board
  cases type : fastcomGetCardType port with
  | pci =>
      have ports := range.1 type
      rcases portNew_pci fsccEnableAsync state type (by omega) with
        ⟨next, run, reports, _⟩
      exact ⟨next, run, reports⟩
  | pcie =>
      have ports := range.2.1 type
      rcases portNew_pcie fsccEnableAsync state type (by omega) with
        ⟨next, run, reports, _⟩
      exact ⟨next, run, reports⟩
  | fscc =>
      have ports := range.2.2 type
      rcases portNew_fscc fsccEnableAsync state type (by omega) with
        ⟨next, run, reports, _⟩
      exact ⟨next, run, reports⟩
  | unknown => exact absurd type (fastcomGetCardType2_known board)

theorem run_message (ledger : CardLedger) (state : CardState) (made : Option Nat) :
    (machine fails (fastcomGetCardType port)).run
        (if fastcomGetCardType port = .fscc then do
          let _ ← (fsccGetPrev port).onSecond
          let _ ← (fsccGetFrev port).onSecond
          pure made
        else pure made) (ledger, state) =
      (some made, (ledger, state)) := by
  by_cases fscc : fastcomGetCardType port = .fscc
  · simp [fscc, Machine.run_bind, Machine.run_onSecond, run_fsccGetPrev]
  · simp [fscc]

theorem run_serialfcPortNew_of_not_configures (notReached : ¬Configures fails minorNumber)
    (ledger : CardLedger) (state : CardState) :
    (machine fails (fastcomGetCardType port)).run
        (serialfcPortNew fsccEnableAsync port minorNumber) (ledger, state) =
      (((kernelMachine fails).run (Lifecycle.serialfcPortNew minorNumber) ledger).1,
        (((kernelMachine fails).run (Lifecycle.serialfcPortNew minorNumber) ledger).2,
          state)) := by
  cases memory : fails (.portMemory minorNumber) with
  | true =>
      simp [serialfcPortNew, Lifecycle.serialfcPortNew, Machine.run_bind,
        Machine.run_onFirst, run_kmalloc, memory]
  | false =>
      cases name : fails (.nameMemory minorNumber) with
      | true =>
          simp [serialfcPortNew, Lifecycle.serialfcPortNew, Machine.run_bind,
            Machine.run_onFirst, run_kmalloc, memory, name, kfree]
      | false =>
          cases node : fails (.deviceNode minorNumber) with
          | true =>
              simp [serialfcPortNew, Lifecycle.serialfcPortNew, Machine.run_bind,
                Machine.run_onFirst, run_kmalloc, memory, name, deviceCreate, node,
                sysfsCreateGroup]
          | false =>
              have attributes : fails (.sysfsGroup minorNumber) = true := by
                by_contra succeeds
                exact notReached ⟨memory, name, node, by simpa using succeeds⟩
              simp [serialfcPortNew, Lifecycle.serialfcPortNew, Machine.run_bind,
                Machine.run_onFirst, run_kmalloc, memory, name, deviceCreate, node,
                sysfsCreateGroup, attributes]

theorem run_serialfcPortNew_of_configures (reached : Configures fails minorNumber)
    (ledger : CardLedger) {state next : CardState}
    (run : (cardMachine (fastcomGetCardType port)).run
      (SerialFc.serialfcPortNew fsccEnableAsync port) state = (some (), next)) :
    (machine fails (fastcomGetCardType port)).run
        (serialfcPortNew fsccEnableAsync port minorNumber) (ledger, state) =
      (((kernelMachine fails).run (Lifecycle.serialfcPortNew minorNumber) ledger).1,
        (((kernelMachine fails).run (Lifecycle.serialfcPortNew minorNumber) ledger).2,
          next)) := by
  rcases reached with ⟨memory, name, node, attributes⟩
  cases cdev : fails (.cdev minorNumber) with
  | true =>
      simp [serialfcPortNew, Lifecycle.serialfcPortNew, Machine.run_bind,
        Machine.run_onFirst, Machine.run_onSecond, run_kmalloc, memory, name,
        deviceCreate, node, sysfsCreateGroup, attributes, run, cdevAdd, cdev,
        deviceDestroy, kfree]
  | false =>
      simp [-bind_pure_comp, serialfcPortNew, Lifecycle.serialfcPortNew,
        Machine.run_bind, Machine.run_onFirst, Machine.run_onSecond, run_kmalloc,
        memory, name, deviceCreate, node, sysfsCreateGroup, attributes, run, cdevAdd,
        cdev, run_message]

def portMade (fails : DriverResource → Bool) (minorNumber : Nat) : Option (Option Nat) :=
  if PortTraps fails minorNumber then none
  else if Configures fails minorNumber ∧ fails (.cdev minorNumber) = false then
    some (some minorNumber)
  else some none

theorem run_portMade (ledger : CardLedger) :
    ((kernelMachine fails).run (Lifecycle.serialfcPortNew minorNumber) ledger).1 =
      portMade fails minorNumber := by
  cases memory : fails (.portMemory minorNumber) with
  | true =>
      simp [Lifecycle.serialfcPortNew, Machine.run_bind, run_kmalloc, memory, portMade,
        PortTraps, Configures]
  | false =>
      cases name : fails (.nameMemory minorNumber) with
      | true =>
          simp [Lifecycle.serialfcPortNew, Machine.run_bind, run_kmalloc, memory, name,
            kfree, portMade, PortTraps, Configures]
      | false =>
          cases node : fails (.deviceNode minorNumber) with
          | true =>
              simp [Lifecycle.serialfcPortNew, Machine.run_bind, run_kmalloc, memory,
                name, deviceCreate, node, sysfsCreateGroup, portMade, PortTraps]
          | false =>
              cases attributes : fails (.sysfsGroup minorNumber) with
              | true =>
                  simp [Lifecycle.serialfcPortNew, Machine.run_bind, run_kmalloc, memory,
                    name, deviceCreate, node, sysfsCreateGroup, attributes, portMade,
                    PortTraps, Configures]
              | false =>
                  cases cdev : fails (.cdev minorNumber) <;>
                    simp [Lifecycle.serialfcPortNew, Machine.run_bind, run_kmalloc,
                      memory, name, deviceCreate, node, sysfsCreateGroup, attributes,
                      cdevAdd, cdev, deviceDestroy, kfree, portMade, PortTraps,
                      Configures]

theorem splits_serialfcPortNew
    (board : boardNumPorts port.card.pciDev.device = some port.card.numPorts)
    (isPort : port.channel < port.card.numPorts) (start : CardLedger × CardState) :
    ∃ last,
      Splits (kernelMachine fails) port.card.machine
        (serialfcPortNew fsccEnableAsync port minorNumber)
        (Lifecycle.serialfcPortNew minorNumber)
        (initialisePorts fsccEnableAsync port.card
          (if Configures fails minorNumber then [port.channel] else []))
        start (portMade fails minorNumber) last := by
  rcases start with ⟨ledger, state⟩
  rw [← run_portMade ledger]
  by_cases reached : Configures fails minorNumber
  · rcases @run_configure fsccEnableAsync port board isPort state with ⟨next, run, _⟩
    refine ⟨(_, next), ?_, rfl, ?_⟩
    · exact run_serialfcPortNew_of_configures reached ledger run
    · rw [if_pos reached]
      simp only [initialisePorts, Machine.run_bind, run, Machine.run_pure]
  · refine ⟨(_, state), ?_, rfl, ?_⟩
    · exact run_serialfcPortNew_of_not_configures reached ledger state
    · rw [if_neg reached]
      rfl

end Ports

/-! ## The loop over the ports -/

section Loop

variable {fails : DriverResource → Bool} {fsccEnableAsync : Bool} {card : Card}

theorem initialisePorts_append (first second : List Nat) :
    initialisePorts fsccEnableAsync card (first ++ second) =
      initialisePorts fsccEnableAsync card first >>= fun _ =>
        initialisePorts fsccEnableAsync card second := by
  induction first with
  | nil => rfl
  | cons channel first induction =>
      rw [List.cons_append, initialisePorts, initialisePorts, bind_assoc, induction]

variable (fails) in
def loopChannels (first channel remaining : Nat) : List Nat :=
  (List.range' channel (loopPorts fails remaining (first + channel))).filter fun channel =>
    Configures fails (first + channel)

theorem loopChannels_succ {first channel remaining : Nat}
    (noTrap : ¬PortTraps fails (first + channel)) :
    loopChannels fails first channel (remaining + 1) =
      (if Configures fails (first + channel) then [channel] else []) ++
        loopChannels fails first (channel + 1) remaining := by
  rw [loopChannels, loopPorts, if_neg noTrap, List.range'_succ, List.filter_cons]
  by_cases reached : Configures fails (first + channel) <;>
    simp [reached, loopChannels, Nat.add_assoc]

/-- A port that traps is not configured, and no port after it. -/
theorem loopChannels_of_traps {first channel remaining : Nat}
    (traps : PortTraps fails (first + channel)) :
    loopChannels fails first channel (remaining + 1) =
      if Configures fails (first + channel) then [channel] else [] := by
  have notReached : ¬Configures fails (first + channel) := by
    rintro ⟨_, _, node, _⟩
    rw [traps.2.2] at node
    cases node
  simp [loopChannels, loopPorts, traps, notReached]

theorem splits_newPorts (board : boardNumPorts card.pciDev.device = some card.numPorts)
    {first channel remaining : Nat} (inRange : channel + remaining ≤ card.numPorts)
    (start : CardLedger × CardState) :
    ∃ result last,
      Splits (kernelMachine fails) card.machine
        (newPorts fsccEnableAsync card remaining channel (first + channel))
        (Lifecycle.newPorts remaining (first + channel))
        (initialisePorts fsccEnableAsync card (loopChannels fails first channel remaining))
        start result last ∧
      ∀ ports next, result = some (ports, next) → ∀ port ∈ ports,
        ∃ made ∈ loopChannels fails first channel remaining, port = first + made := by
  induction remaining generalizing channel start with
  | zero =>
      refine ⟨_, start, .pure _, ?_⟩
      rintro ports next made port member
      cases made
      cases member
  | succ remaining induction =>
      have isPort : channel < card.numPorts := by omega
      rcases @splits_serialfcPortNew fails fsccEnableAsync (first + channel)
        ⟨card, channel⟩ board isPort start with ⟨middle, early⟩
      rw [newPorts, Lifecycle.newPorts]
      by_cases traps : PortTraps fails (first + channel)
      · rw [portMade, if_pos traps] at early
        rw [loopChannels_of_traps traps]
        refine ⟨none, middle, early.bind_trap, ?_⟩
        exact fun _ _ impossible => by cases impossible
      · have later := @induction (channel + 1) (by omega) middle
        rcases later with ⟨result, last, later, made⟩
        rw [loopChannels_succ traps, initialisePorts_append]
        rw [portMade, if_neg traps, ← apply_ite some] at early
        cases result with
        | none =>
            refine ⟨none, last, early.bind later.bind_trap, ?_⟩
            exact fun _ _ impossible => by cases impossible
        | some result =>
            rcases result with ⟨ports, next⟩
            refine ⟨some _, last, early.bind (later.bind_pure rfl rfl), ?_⟩
            intro all final isResult port member
            cases isResult
            rcases List.mem_append.mp member with own | isLater
            · by_cases both : Configures fails (first + channel) ∧
                  fails (.cdev (first + channel)) = false
              · rw [if_pos both] at own
                rw [if_pos both.1]
                exact ⟨channel, List.mem_append_left _ (List.mem_singleton_self _),
                  List.mem_singleton.mp own⟩
              · rw [if_neg both] at own
                cases own
            · rcases made ports next rfl port isLater with ⟨other, isOther, same⟩
              exact ⟨other, List.mem_append_right _ isOther, same⟩

end Loop

/-! ## The whole card -/

section Cards

variable {fails : DriverResource → Bool} {fsccEnableAsync : Bool}
  {device : PciFunction} {numPorts minorNumber : Nat}

theorem configuredChannels_eq (board : boardNumPorts device.pciDev.device = some numPorts)
    (reaches : ReachesLoop fails device) :
    configuredChannels fails device minorNumber =
      loopChannels fails minorNumber 0 numPorts := by
  rw [configuredChannels, cardPorts, board, loopChannels, List.range_eq_range']
  simp only [if_pos reaches, Nat.add_zero]

theorem configuredChannels_eq_nil (notReaches : ¬ReachesLoop fails device) :
    configuredChannels fails device minorNumber = [] := by
  rw [configuredChannels, cardPorts]
  cases boardNumPorts device.pciDev.device <;> simp [notReaches]

theorem splits_finishCard (board : boardNumPorts device.pciDev.device = some numPorts)
    (serialPriv : Pointer) (start : CardLedger × CardState) :
    ∃ result last,
      Splits (kernelMachine fails) (cardMachine device.cardType)
        (finishCard fsccEnableAsync device serialPriv minorNumber)
        (Lifecycle.finishCard device serialPriv minorNumber)
        (initialisePorts fsccEnableAsync ⟨device.pciDev, numPorts⟩
          (loopChannels fails minorNumber 0 numPorts)) start result last ∧
      ∀ record next, result = some (some record, next) → ∀ port ∈ record.ports,
        ∃ made ∈ loopChannels fails minorNumber 0 numPorts,
          port = minorNumber + made := by
  rcases @splits_newPorts fails fsccEnableAsync ⟨device.pciDev, numPorts⟩ board
    minorNumber 0 numPorts (Nat.le_of_eq (Nat.zero_add _)) start with
    ⟨result, last, loop, made⟩
  simp only [finishCard, Lifecycle.finishCard, board]
  cases result with
  | none =>
      refine ⟨none, last, loop.bind_trap, ?_⟩
      exact fun _ _ impossible => by cases impossible
  | some result =>
      rcases result with ⟨ports, next⟩
      refine ⟨some _, last, loop.bind_pure rfl rfl, ?_⟩
      rintro record final isResult
      cases isResult
      exact made ports next rfl

/-- Whatever fails, the making of a card leaves the ledger where it is left without
the registers, and the registers where configuring the channels that got as far
leaves them. -/
theorem splits_serialfcCardNew
    (board : boardNumPorts device.pciDev.device = some numPorts)
    (start : CardLedger × CardState) :
    ∃ result last,
      Splits (kernelMachine fails) (cardMachine device.cardType)
        (serialfcCardNew fsccEnableAsync device minorNumber)
        (Lifecycle.serialfcCardNew device minorNumber)
        (initialisePorts fsccEnableAsync ⟨device.pciDev, numPorts⟩
          (configuredChannels fails device minorNumber)) start result last ∧
      ∀ record next, result = some (some record, next) → ∀ port ∈ record.ports,
        ∃ channel ∈ configuredChannels fails device minorNumber,
          port = minorNumber + channel := by
  rcases start with ⟨ledger, state⟩
  have allocation := @run_kmalloc fails ledger (.cardMemory device.pdev)
  cases memory : fails (.cardMemory device.pdev) with
  | true =>
      have stops : ¬ReachesLoop fails device := fun reaches => by
        rw [reaches.1] at memory
        cases memory
      rw [if_pos memory] at allocation
      rw [configuredChannels_eq_nil stops]
      refine ⟨_, _, (Splits.onFirst allocation state).bind_pure rfl rfl, ?_⟩
      exact fun _ _ impossible => by cases impossible
  | false =>
      rw [if_neg (by simp [memory])] at allocation
      by_cases serial : device.cardType = .fscc → fails (.serialPorts device.pdev) = false
      · rcases run_initSerialPorts (ledger.acquire (.cardMemory device.pdev)) board serial
          with ⟨serialPriv, middle, notError, serialRun, _⟩
        by_cases maps : MapsBars fails device
        · rcases run_mapBars_of_maps middle maps with ⟨after, mapRun, _⟩
          rcases @splits_finishCard fails fsccEnableAsync device numPorts minorNumber board
            serialPriv (after, state) with ⟨result, last, late, made⟩
          rw [configuredChannels_eq board ⟨memory, serial, maps⟩]
          refine ⟨result, last, ?_, made⟩
          apply (Splits.onFirst allocation state).bind_of_eq rfl rfl
          apply (Splits.onFirst serialRun state).bind_of_eq (if_neg notError)
            (if_neg notError)
          exact (Splits.onFirst mapRun state).bind_of_eq (if_pos rfl) (if_pos rfl) late
        · rcases run_mapBars_of_not_maps middle maps with ⟨after, mapRun⟩
          have stops : ¬ReachesLoop fails device := fun reaches => maps reaches.2.2
          rw [configuredChannels_eq_nil stops]
          refine ⟨some (none, minorNumber), (after, state), ?_, ?_⟩
          · apply (Splits.onFirst allocation state).bind_of_eq rfl rfl
            apply (Splits.onFirst serialRun state).bind_of_eq (if_neg notError)
              (if_neg notError)
            exact (Splits.onFirst mapRun state).bind_pure rfl rfl
          · exact fun _ _ impossible => by cases impossible
      · obtain ⟨fscc, failed⟩ : device.cardType = .fscc ∧
            fails (.serialPorts device.pdev) = true := by
          simpa using serial
        have serialRun : (kernelMachine fails).run (initSerialPorts device)
            (ledger.acquire (.cardMemory device.pdev)) =
            (some .error, ledger.acquire (.cardMemory device.pdev)) := by
          simp [initSerialPorts, pciserialInitPorts, fscc, board, failed]
        have stops : ¬ReachesLoop fails device := fun reaches => serial reaches.2.1
        rw [configuredChannels_eq_nil stops]
        refine ⟨some (none, minorNumber), (ledger.acquire (.cardMemory device.pdev), state),
          ?_, ?_⟩
        · apply (Splits.onFirst allocation state).bind_of_eq rfl rfl
          exact (Splits.onFirst serialRun state).bind_pure rfl rfl
        · exact fun _ _ impossible => by cases impossible

end Cards

/-! ## When a port can be opened -/

section Opening

variable {fails : DriverResource → Bool} {fsccEnableAsync : Bool} {card : Card}
  {type : CardType} {first channel remaining : Nat} {start : CardLedger × CardState}

/-- A port that is handed to the kernel to be opened reports its defaults. -/
def OpensConfigured (card : Card) (first : Nat)
    (step : (CardLedger × CardState) × (ResourceCall DriverResource ⊕ Access)) : Prop :=
  ∀ port, step.2 = .inl (.acquire (.cdev port)) →
    ∃ channel < card.numPorts, port = first + channel ∧
      ReportsDefaults ⟨card, channel⟩ step.1.2

def OpensNone (call : ResourceCall DriverResource) : Prop :=
  ∀ port, call ≠ .acquire (.cdev port)

theorem opensConfigured_onFirst {α : Type} {program : Kernel α}
    (performs : program.Performs OpensNone) :
    ∀ step ∈ (machine fails type).steps program.onFirst start,
      OpensConfigured card first step := by
  intro step member port opens
  rcases Machine.steps_onFirst performs step member with ⟨call, isCall, none⟩
  rw [isCall] at opens
  exact absurd (Sum.inl.inj opens) (none port)

theorem opensConfigured_onSecond {α : Type} {program : Driver α} :
    ∀ step ∈ (machine fails type).steps program.onSecond start,
      OpensConfigured card first step := by
  intro step member port opens
  rcases Machine.steps_onSecond step member with ⟨access, isAccess⟩
  rw [isAccess] at opens
  cases opens

section Quiet

attribute [local simp] OpensNone acquire release

theorem opensNone_kmalloc {memory : DriverResource} (notCdev : ∀ port, memory ≠ .cdev port) :
    (kmalloc memory).Performs OpensNone := by
  simpa [kmalloc] using notCdev

theorem opensNone_kfree (memory : DriverResource) : (kfree memory).Performs OpensNone := by
  simp [kfree]

theorem opensNone_deviceCreate (minorNumber : Nat) :
    (deviceCreate minorNumber).Performs OpensNone := by
  simp [deviceCreate]

theorem opensNone_deviceDestroy (minorNumber : Nat) :
    (deviceDestroy minorNumber).Performs OpensNone := by
  simp [deviceDestroy]

theorem opensNone_sysfsCreateGroup (device : Pointer) (minorNumber : Nat) :
    (sysfsCreateGroup device minorNumber).Performs OpensNone := by
  cases device <;> simp [sysfsCreateGroup]

end Quiet

theorem opensConfigured_pure {α : Type} (value : α) :
    ∀ step ∈ (machine fails type).steps (pure value : Maker α) start,
      OpensConfigured card first step :=
  fun _ absent => by cases absent

theorem opensConfigured_undo (minorNumber : Nat) :
    ∀ step ∈ (machine fails type).steps
      (do
        (deviceDestroy minorNumber).onFirst
        (kfree (.nameMemory minorNumber)).onFirst
        (kfree (.portMemory minorNumber)).onFirst
        pure none : Maker (Option Nat)) start,
      OpensConfigured card first step := by
  apply Machine.forall_steps_bind _
    (opensConfigured_onFirst (opensNone_deviceDestroy minorNumber))
  intro _ _ _
  apply Machine.forall_steps_bind _ (opensConfigured_onFirst (opensNone_kfree _))
  intro _ _ _
  apply Machine.forall_steps_bind _ (opensConfigured_onFirst (opensNone_kfree _))
  intro _ _ _
  exact opensConfigured_pure none

theorem opensConfigured_serialfcPortNew
    (board : boardNumPorts card.pciDev.device = some card.numPorts)
    (isPort : channel < card.numPorts) :
    ∀ step ∈ (machine fails (fastcomGetCardType2 card)).steps
      (serialfcPortNew fsccEnableAsync ⟨card, channel⟩ (first + channel)) start,
      OpensConfigured card first step := by
  rw [serialfcPortNew]
  apply Machine.forall_steps_bind _
    (opensConfigured_onFirst (opensNone_kmalloc fun _ => DriverResource.noConfusion))
  intro memory _ _
  split
  case isTrue => exact opensConfigured_pure none
  apply Machine.forall_steps_bind _
    (opensConfigured_onFirst (opensNone_kmalloc fun _ => DriverResource.noConfusion))
  intro name _ _
  split
  case isTrue =>
    apply Machine.forall_steps_bind _ (opensConfigured_onFirst (opensNone_kfree _))
    intro _ _ _
    exact opensConfigured_pure none
  apply Machine.forall_steps_bind _ (opensConfigured_onFirst (opensNone_deviceCreate _))
  intro device _ _
  split
  case isTrue => exact opensConfigured_undo _
  apply Machine.forall_steps_bind _
    (opensConfigured_onFirst (opensNone_sysfsCreateGroup device _))
  rintro attributes ⟨ledger, state⟩ _
  split
  case isFalse => exact opensConfigured_pure none
  apply Machine.forall_steps_bind _ opensConfigured_onSecond
  intro _ configured run
  rcases @run_configure fsccEnableAsync ⟨card, channel⟩ board isPort state with
    ⟨next, configures, reports⟩
  replace configures : (cardMachine (fastcomGetCardType2 card)).run
      (SerialFc.serialfcPortNew fsccEnableAsync ⟨card, channel⟩) state =
        (some (), next) := configures
  rw [Machine.run_onSecond, configures] at run
  cases run
  apply Machine.forall_steps_bind
  · intro step member port opens
    obtain rfl := List.mem_singleton.mp member
    have same : first + channel = port := by
      cases opens
      rfl
    exact ⟨channel, isPort, same.symm, reports⟩
  · intro added _ _
    split
    case isFalse => exact opensConfigured_undo _
    split
    case isFalse => exact opensConfigured_pure _
    apply Machine.forall_steps_bind _ opensConfigured_onSecond
    intro _ _ _
    apply Machine.forall_steps_bind _ opensConfigured_onSecond
    intro _ _ _
    exact opensConfigured_pure _

theorem opensConfigured_newPorts
    (board : boardNumPorts card.pciDev.device = some card.numPorts)
    (inRange : channel + remaining ≤ card.numPorts) :
    ∀ step ∈ (machine fails (fastcomGetCardType2 card)).steps
      (newPorts fsccEnableAsync card remaining channel (first + channel)) start,
      OpensConfigured card first step := by
  induction remaining generalizing channel start with
  | zero => exact opensConfigured_pure _
  | succ remaining induction =>
      have isPort : channel < card.numPorts := by omega
      rw [newPorts]
      apply Machine.forall_steps_bind _ (opensConfigured_serialfcPortNew board isPort)
      intro port middle _
      apply Machine.forall_steps_bind _ (@induction (channel + 1) middle (by omega))
      rintro ⟨ports, next⟩ _ _
      exact opensConfigured_pure _

theorem opensConfigured_serialfcCardNew {device : PciFunction} {numPorts : Nat}
    (board : boardNumPorts device.pciDev.device = some numPorts) (minorNumber : Nat) :
    ∀ step ∈ (machine fails device.cardType).steps
      (serialfcCardNew fsccEnableAsync device minorNumber) start,
      OpensConfigured ⟨device.pciDev, numPorts⟩ minorNumber step := by
  rw [serialfcCardNew]
  apply Machine.forall_steps_bind _
    (opensConfigured_onFirst (opensNone_kmalloc fun _ => DriverResource.noConfusion))
  intro memory _ _
  split
  case isTrue => exact opensConfigured_pure _
  have serialPorts : (initSerialPorts device).Performs OpensNone :=
    initSerialPorts_performs device fun _ same => by cases same
  apply Machine.forall_steps_bind _ (opensConfigured_onFirst serialPorts)
  intro serialPriv _ _
  split
  case isTrue => exact opensConfigured_pure _
  have bars : (mapBars device).Performs OpensNone :=
    mapBars_performs fun _ _ same => by cases same
  apply Machine.forall_steps_bind _ (opensConfigured_onFirst bars)
  intro mapped middle _
  split
  case isFalse => exact opensConfigured_pure _
  simp only [finishCard, board]
  have loop := @opensConfigured_newPorts fails fsccEnableAsync ⟨device.pciDev, numPorts⟩
    minorNumber 0 numPorts middle board (Nat.le_of_eq (Nat.zero_add _))
  apply Machine.forall_steps_bind _ loop
  rintro ⟨ports, next⟩ _ _
  exact opensConfigured_pure _

end Opening

/-! ## What comes of it -/

section Outcome

variable {fsccEnableAsync : Bool} {card : Card} {channels : List Nat}
  {before state : CardState}

theorem reportsDefaults_of_initialisePorts
    (board : boardNumPorts card.pciDev.device = some card.numPorts)
    (inRange : ∀ channel ∈ channels, channel < card.numPorts)
    (run : card.machine.run (initialisePorts fsccEnableAsync card channels) before =
      (some (), state))
    {channel : Nat} (member : channel ∈ channels) :
    ReportsDefaults ⟨card, channel⟩ state := by
  have range := boardNumPorts_range card board
  intro setting value isDefault supported output
  rw [Card.machine]
  change Setting.SupportedBy (fastcomGetCardType2 card) _ _ at supported
  cases type : fastcomGetCardType2 card with
  | pci =>
      have isPci : fastcomGetCardType ⟨card, channel⟩ = .pci := type
      rw [type] at supported
      have answer := initialisePorts_pci type inRange run member isDefault supported output
      exact ⟨state, by rw [run_get_pci isPci, answer]⟩
  | pcie =>
      have isPcie : fastcomGetCardType ⟨card, channel⟩ = .pcie := type
      rw [type] at supported
      rcases initialisePorts_pcie type (range.2.1 type) inRange run member with
        ⟨view, isView⟩
      have accepted := (pcieAccepts_iff _ _ _).mpr
        (default_inOperatingRange isDefault supported)
      refine ⟨state, ?_⟩
      rw [run_get_pcie isPcie, isView, view.get_initialised isDefault accepted]
  | fscc =>
      have isFscc : fastcomGetCardType ⟨card, channel⟩ = .fscc := type
      have twoPorts : card.numPorts = 2 := range.2.2 type
      rcases initialisePorts_fscc type (twoPorts ▸ inRange) run member with
        ⟨view, isView⟩
      have synced : (state.fsccView channel).AcrSynced := isView ▸ view.initialised_synced
      have firmware : state.firmwareRevision channel = view.firmwareRevision := by
        rw [← view.initialised_rest.2, ← isView]
        rfl
      rw [type, firmware] at supported
      rcases run_get_of_synced isFscc state synced output setting with ⟨index, answer⟩
      rw [answer, isView, view.get_initialised isDefault supported]
      exact ⟨_, rfl⟩
  | unknown => exact absurd type (fastcomGetCardType2_known board)

theorem loopPorts_le (fails : DriverResource → Bool) (remaining minorNumber : Nat) :
    loopPorts fails remaining minorNumber ≤ remaining := by
  induction remaining generalizing minorNumber with
  | zero => exact le_refl 0
  | succ remaining induction =>
      have later := induction (minorNumber + 1)
      rw [loopPorts]
      split
      · omega
      · omega

theorem configuredChannels_inRange {fails : DriverResource → Bool} {device : PciFunction}
    {numPorts minorNumber : Nat}
    (board : boardNumPorts device.pciDev.device = some numPorts) :
    ∀ channel ∈ configuredChannels fails device minorNumber, channel < numPorts := by
  intro channel member
  by_cases reaches : ReachesLoop fails device
  · rw [configuredChannels_eq board reaches] at member
    have inLoop := List.mem_range'_1.mp (List.mem_of_mem_filter member)
    have few := loopPorts_le fails numPorts (minorNumber + 0)
    omega
  · rw [configuredChannels_eq_nil reaches] at member
    cases member

/-- Whatever fails while a card is made, the ledger comes out as it does without the
registers, and the registers come out as if the ports that got their attributes were
all there are. Every one of these reports its defaults, the ports on the card are
among them, and each was configured before it could be opened. -/
theorem serialfcCardNew_configures (fails : DriverResource → Bool)
    (fsccEnableAsync : Bool) {device : PciFunction} {numPorts : Nat}
    (board : boardNumPorts device.pciDev.device = some numPorts) (minorNumber : Nat)
    (ledger : CardLedger) (state : CardState) :
    let card : Card := ⟨device.pciDev, numPorts⟩
    let channels := configuredChannels fails device minorNumber
    let program := serialfcCardNew fsccEnableAsync device minorNumber
    ∃ result after next,
      (machine fails device.cardType).run program (ledger, state) =
        (result, (after, next)) ∧
      (kernelMachine fails).run (Lifecycle.serialfcCardNew device minorNumber) ledger =
        (result, after) ∧
      card.machine.run (initialisePorts fsccEnableAsync card channels) state =
        (some (), next) ∧
      (∀ channel ∈ channels, ReportsDefaults ⟨card, channel⟩ next) ∧
      (∀ record number, result = some (some record, number) → ∀ port ∈ record.ports,
        ∃ channel ∈ channels, port = minorNumber + channel) ∧
      ∀ step ∈ (machine fails device.cardType).steps program (ledger, state),
        OpensConfigured card minorNumber step := by
  intro card channels program
  rcases @splits_serialfcCardNew fails fsccEnableAsync device numPorts minorNumber board
    (ledger, state) with ⟨result, ⟨after, next⟩, splits, listed⟩
  have configured : card.machine.run (initialisePorts fsccEnableAsync card channels) state =
      (some (), next) := splits.rest
  refine ⟨result, after, next, splits.whole, splits.part, configured, ?_, listed, ?_⟩
  · intro channel member
    exact reportsDefaults_of_initialisePorts board (configuredChannels_inRange board)
      configured member
  · exact opensConfigured_serialfcCardNew board minorNumber

/-- The second port of an FSCC card is configured though there was no memory for the
first. -/
theorem serialfcCardNew_configures_secondPort :
    let device := fsccFunction 0
    let fails : DriverResource → Bool := fun resource => resource = .portMemory 0
    ∃ result after next,
      (machine fails device.cardType).run (serialfcCardNew false device 0) (0, .blank) =
        (result, (after, next)) ∧
      ReportsDefaults ⟨⟨device.pciDev, 2⟩, 1⟩ next := by
  intro device fails
  rcases @serialfcCardNew_configures fails false device 2 (by decide) 0 0 .blank with
    ⟨result, after, next, run, _, _, reports, _⟩
  exact ⟨result, after, next, run, reports 1 (by decide)⟩

end Outcome

end SerialFc.Creation
