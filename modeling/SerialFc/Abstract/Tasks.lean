import SerialFc.Foundation.Tasks
import SerialFc.Interface.SharedRegisters
import SerialFc.Abstract.ReadBack

/-! # Tasks that use a card at once

Tasks that make requests to the ports of one card, whose accesses mix. Where no
task changes a register or shadow field that another one touches, what comes of
them is what would have come of their requests one after the other.
-/

namespace SerialFc

/-! ## What requests touch -/

def Setting.setter : Setting → Command
  | .rs485 => .enableRs485
  | .echoCancel => .enableEchoCancel
  | .termination => .enableTermination
  | .isochronous => .enableIsochronous
  | .externalTransmit => .enableExternalTransmit
  | .frameLength => .setFrameLength
  | .txTrigger => .setTxTrigger
  | .rxTrigger => .setRxTrigger
  | .sampleRate => .setSampleRate

namespace Request

def command : Request → Command
  | .ioctl command _ _ _ => command
  | .read (.setting setting) => setting.getter
  | .read .baudRate => .getBaudRate
  | .write (.setting setting) _ => setting.setter
  | .write .baudRate _ => .setBaudRate
  | .read _ | .write _ _ => .unknown

def footprint (port : Port) (request : Request) : Footprint :=
  request.command.footprint port

end Request

section Footprints

variable (port : Port)

theorem Setting.set_denote (value : BitVec 32) (setting : Setting) :
    setting.set port (setting.denote value) = setting.set port value := by
  cases setting with
  | rs485 =>
      simp [Setting.set, Setting.denote, fastcomSetRs485, fastcomSetRs485Pci,
        fastcomSetRs485Pcie, fastcomSetRs485Fscc]
  | echoCancel =>
      simp [Setting.set, Setting.denote, fastcomSetEchoCancel,
        fastcomSetEchoCancelPci, fastcomSetEchoCancelPcie,
        fastcomSetEchoCancelFscc]
  | termination =>
      simp [Setting.set, Setting.denote, fastcomSetTermination,
        fastcomSetTerminationPcie]
  | isochronous | externalTransmit | frameLength | txTrigger | rxTrigger
  | sampleRate => rfl

theorem operation_performs {command : Command} {arg : BitVec 64}
    {user : UserSpace} {allocated : Bool} {operation : Operation}
    (called : command.operation arg user allocated = some operation) :
    (operation.program port).Performs
      ((command.footprint port).Permits (fastcomGetCardType port)) := by
  have keeps := serialfcIoctl_keepsToFootprint port command arg user allocated
  rw [serialfcIoctl_eq, called] at keeps
  exact (Program.performs_map _ _).mp keeps

theorem footprint_disable :
    Command.disableRs485.footprint port = Command.enableRs485.footprint port ∧
      Command.disableEchoCancel.footprint port =
        Command.enableEchoCancel.footprint port ∧
      Command.disableTermination.footprint port =
        Command.enableTermination.footprint port := by
  cases type : fastcomGetCardType port <;>
    simp [Command.footprint, Command.footprintPci, Command.footprintPcie,
      Command.footprintFscc, type]

theorem set_performs (setting : Setting) (value : BitVec 32) :
    ((Operation.set setting value).program port).Performs
      ((setting.setter.footprint port).Permits (fastcomGetCardType port)) := by
  have number : ∀ {command : Command},
      command.operation (value.setWidth 64) ⟨fun _ => 0, 0⟩ true =
        some (.set setting ((value.setWidth 64).setWidth 32)) →
      ((Operation.set setting value).program port).Performs
        ((command.footprint port).Permits (fastcomGetCardType port)) := by
    intro command called
    have same : (value.setWidth 64).setWidth 32 = value := by simp
    rw [same] at called
    exact operation_performs port called
  have switch : ∀ on off : Command,
      on.operation 0 ⟨fun _ => 0, 0⟩ true = some (.set setting 1) →
      off.operation 0 ⟨fun _ => 0, 0⟩ true = some (.set setting 0) →
      off.footprint port = on.footprint port →
      (setting.denote value = if value ≠ 0 then 1 else 0) →
      ((Operation.set setting value).program port).Performs
        ((on.footprint port).Permits (fastcomGetCardType port)) := by
    intro on off turnsOn turnsOff same denotes
    rw [Operation.program, ← Setting.set_denote, denotes]
    by_cases zero : value = 0
    · rw [if_neg (not_not.mpr zero), ← same]
      exact operation_performs port turnsOff
    · rw [if_pos zero]
      exact operation_performs port turnsOn
  have alike := footprint_disable port
  cases setting with
  | isochronous | externalTransmit | frameLength | txTrigger | rxTrigger
  | sampleRate => exact number rfl
  | rs485 => exact switch .enableRs485 .disableRs485 rfl rfl alike.1 rfl
  | echoCancel => exact switch .enableEchoCancel .disableEchoCancel rfl rfl alike.2.1 rfl
  | termination =>
      exact switch .enableTermination .disableTermination rfl rfl alike.2.2 rfl

theorem Request.handler_performs {request : Request} {handler : Driver Response}
    (isHandler : request.handler port = some handler) :
    handler.Performs
      ((request.footprint port).Permits (fastcomGetCardType port)) := by
  cases request with
  | ioctl command arg user allocated =>
      cases isHandler
      exact (Program.performs_map _ _).mpr
        (serialfcIoctl_keepsToFootprint port command arg user allocated)
  | read attr =>
      rw [Request.handler, showHandler_eq] at isHandler
      cases attr with
      | setting setting =>
          cases isHandler
          have called : setting.getter.operation 0 ⟨fun _ => 0, 0⟩ true =
              some (.get setting 0) := by
            cases setting <;> rfl
          exact (Program.performs_map _ _).mpr
            ((Program.performs_map _ _).mpr (operation_performs port called))
      | baudRate =>
          cases isHandler
          have performs := @operation_performs port .getBaudRate 0
            ⟨fun _ => 0, 0⟩ true _ rfl
          exact (Program.performs_map _ _).mpr
            ((Program.performs_map _ _).mpr performs)
      | nineBit =>
          cases isHandler
          trivial
      | clockRate => cases isHandler
  | write attr text =>
      cases isHandler
      rw [storeHandler_eq]
      cases attr with
      | setting setting =>
          exact (Program.performs_map _ _).mpr
            ((Program.performs_map _ _).mpr (set_performs port setting _))
      | baudRate =>
          have performs := @operation_performs port .setBaudRate
            (simpleStrtoul text 10) ⟨fun _ => 0, 0⟩ true _ rfl
          exact (Program.performs_map _ _).mpr
            ((Program.performs_map _ _).mpr performs)
      | nineBit | clockRate => trivial

end Footprints

/-! ## Tasks -/

structure Asked (card : Card) where
  channel : Nat
  inRange : channel < card.numPorts
  request : Request
  handler : Driver Response
  isHandler : request.handler ⟨card, channel⟩ = some handler

section Tasks

variable {card : Card}

def Asked.footprint (asked : Asked card) : Footprint :=
  asked.request.footprint ⟨card, asked.channel⟩

/-- A task makes its next request when the last one has been served. -/
def taskProgram : List (Asked card) → Driver (List Response)
  | [] => pure []
  | asked :: later => do
      let response ← asked.handler
      let responses ← taskProgram later
      pure (response :: responses)

def TasksApart (tasks : List (List (Asked card))) : Prop :=
  tasks.Pairwise fun first second => ∀ early ∈ first, ∀ late ∈ second,
    early.footprint.Independent late.footprint

def exchanges : List (Asked card) → List Response → List Exchange
  | asked :: later, response :: responses =>
      ⟨asked.channel, asked.request, response⟩ :: exchanges later responses
  | _, _ => []

theorem taskProgram_performs (task : List (Asked card)) :
    (taskProgram task).Performs fun access => ∃ asked ∈ task,
      asked.footprint.Permits (fastcomGetCardType2 card) access := by
  induction task with
  | nil => trivial
  | cons asked later induction =>
      have first := Request.handler_performs ⟨card, asked.channel⟩ asked.isHandler
      apply Program.performs_bind
      · exact first.mono fun access permitted =>
          ⟨asked, List.mem_cons_self, permitted⟩
      · intro response
        refine Program.performs_bind (induction.mono ?_) fun _ => trivial
        rintro access ⟨other, member, permitted⟩
        exact ⟨other, List.mem_cons_of_mem _ member, permitted⟩

theorem TasksApart.programs {tasks : List (List (Asked card))}
    (apart : TasksApart tasks) :
    (tasks.map taskProgram).Pairwise (Program.Apart card.machine) := by
  apply List.Pairwise.map taskProgram _ apart
  intro first second independent
  apply Program.apart_of_performs (taskProgram_performs first)
    (taskProgram_performs second)
  rintro early late ⟨asked, member, permitted⟩ ⟨other, otherMember, otherPermitted⟩
  exact Footprint.commutes_of_independent
    (independent asked member other otherMember) permitted otherPermitted

/-- The footprint has no register in it that ports share. -/
def Asked.Own (asked : Asked card) : Prop :=
  ∀ location ∈ asked.footprint.reads ++ asked.footprint.writes,
    location.shared = false

theorem channel_of_within {location : Location} {channel other : Nat}
    (within : location.Within channel) (otherWithin : location.Within other)
    (own : location.shared = false)
    (notBar0 : ∀ offset, location ≠ .bar0 offset) : channel = other := by
  cases location with
  | uart owner | line owner | acr owner => exact within.symm.trans otherWithin
  | plain owner offset => exact within.symm.trans otherWithin
  | field owner field => exact within.symm.trans otherWithin
  | config offset => cases own
  | fcr => cases own
  | bar0 offset => exact absurd rfl (notBar0 offset)

theorem independent_of_own {first second : Asked card}
    (different : first.channel ≠ second.channel) (own : first.Own) :
    first.footprint.Independent second.footprint := by
  rcases footprint_within ⟨card, first.channel⟩ first.request.command with
    ⟨reads, writes⟩
  rcases footprint_within ⟨card, second.channel⟩ second.request.command with
    ⟨otherReads, otherWrites⟩
  refine ⟨fun location written => ⟨fun read => ?_, fun again => ?_⟩,
    fun location written read => ?_⟩
  · exact different (channel_of_within (writes _ written).1 (otherReads _ read)
      (own _ (List.mem_append_right _ written)) (writes _ written).2)
  · exact different (channel_of_within (writes _ written).1 (otherWrites _ again).1
      (own _ (List.mem_append_right _ written)) (writes _ written).2)
  · exact different (channel_of_within (reads _ read) (otherWrites _ written).1
      (own _ (List.mem_append_left _ read)) (otherWrites _ written).2)

theorem Footprint.Independent.symm {first second : Footprint}
    (independent : first.Independent second) : second.Independent first :=
  ⟨fun location written => ⟨independent.2 location written,
      fun again => (independent.1 location again).2 written⟩,
    fun location written read => (independent.1 location written).1 read⟩

/-- Tasks are apart if they use different ports and only one of them makes
requests about what the ports share. -/
theorem tasksApart_of_own {tasks : List (List (Asked card))}
    (owned : tasks.Pairwise fun first second =>
      (∀ early ∈ first, ∀ late ∈ second, early.channel ≠ late.channel) ∧
        ((∀ early ∈ first, early.Own) ∨ ∀ late ∈ second, late.Own)) :
    TasksApart tasks := by
  apply owned.imp
  rintro first second ⟨different, own | own⟩ early member late lateMember
  · exact independent_of_own (different early member late lateMember)
      (own early member)
  · exact (independent_of_own (different early member late lateMember).symm
      (own late lateMember)).symm

/-! ## One task after the other -/

variable {start : CardState → Prop} {state final : CardState}
  {history : List Exchange}

theorem run_taskProgram {task : List (Asked card)} {responses : List Response}
    (reachable : Run start (Serves card) state history)
    (run : card.machine.run (taskProgram task) state = (some responses, final)) :
    Run start (Serves card) final ((exchanges task responses).reverse ++ history) := by
  induction task generalizing state history responses with
  | nil =>
      cases run
      exact reachable
  | cons asked later induction =>
      rw [taskProgram, Machine.run_bind] at run
      rcases first : card.machine.run asked.handler state with
        ⟨_ | response, middle⟩
      · rw [first] at run
        cases run
      · rw [first] at run
        simp only [Machine.run_bind] at run
        rcases rest : card.machine.run (taskProgram later) middle with
          ⟨_ | others, last⟩
        · rw [rest] at run
          cases run
        · rw [rest] at run
          cases run
          have served : Run start (Serves card) middle
              (⟨asked.channel, asked.request, response⟩ :: history) :=
            .step reachable ⟨asked.inRange, _, asked.isHandler, first⟩
          have extended := induction served rest
          rwa [exchanges, List.reverse_cons, List.append_assoc]

theorem run_tasks {tasks : List (List (Asked card))}
    {answers : List (List Response)}
    (reachable : Run start (Serves card) state history)
    (inTurn : (answers.map some, final) =
      card.machine.runInTurn (tasks.map taskProgram) state) :
    Run start (Serves card) final
      ((List.zipWith exchanges tasks answers).flatten.reverse ++ history) := by
  induction tasks generalizing state history answers with
  | nil =>
      rcases Prod.mk.inj inTurn with ⟨none, rfl⟩
      rw [List.map_eq_nil_iff.mp none]
      exact reachable
  | cons task tasks induction =>
      rw [List.map_cons, Machine.runInTurn_cons] at inTurn
      rcases Prod.mk.inj inTurn with ⟨results, last⟩
      cases answers with
      | nil => cases results
      | cons responses answers =>
          rcases List.cons.inj results with ⟨first, rest⟩
          have served := run_taskProgram reachable (Prod.ext first.symm rfl)
          have extended := induction served (Prod.ext rest last)
          rwa [List.zipWith_cons_cons, List.flatten_cons, List.reverse_append,
            List.append_assoc]

/-! ## Tasks at once -/

/-- Tasks with footprints apart that use a card at once, from any state it
reaches, come to what they come to one after the other. So when they are all
served, the card is where its settings are that served them one by one. -/
theorem tasks_linearise {fsccEnableAsync : Bool}
    (board : boardNumPorts card.pciDev.device = some card.numPorts)
    (reachable : Run (Initialised fsccEnableAsync card) (Serves card) state history)
    {tasks : List (List (Asked card))} (apart : TasksApart tasks)
    {results : List (Option (List Response))}
    (mixed : Mixed card.machine (tasks.map taskProgram) state results final) :
    (results, final) = card.machine.runInTurn (tasks.map taskProgram) state ∧
    ∀ answers : List (List Response), results = answers.map some →
      let served := (List.zipWith exchanges tasks answers).flatten.reverse ++ history
      Run (Initialised fsccEnableAsync card) (Serves card) final served ∧
        ∃ settings, Reflects card final settings ∧
          Run (CardSettings.Fresh card) (CardSettings.Serves card) settings
            served := by
  have inTurn := mixed.eq_runInTurn apart.programs
  refine ⟨inTurn, ?_⟩
  rintro answers rfl served
  have run : Run (Initialised fsccEnableAsync card) (Serves card) final served :=
    run_tasks reachable inTurn
  rcases (card_simulates_requests board).run run with
    ⟨settings, reflects, settingsRun⟩
  exact ⟨run, settings, reflects, settingsRun⟩

end Tasks

/-- The sample rate of one FSCC port is read twice, while echo cancel of the
other is turned on. -/
theorem tasks_linearise_sampleRate :
    let card := Card.ofDevice fsccId 2
    let user : UserSpace := ⟨fun _ => 0, 4⟩
    let reads : Asked card :=
      ⟨0, by decide, .ioctl .getSampleRate 0 user true, _, rfl⟩
    let turnsOn : Asked card :=
      ⟨1, by decide, .ioctl .enableEchoCancel 0 user true, _, rfl⟩
    ∃ state final answers, Initialised false card state ∧
      Mixed card.machine ([[reads, reads], [turnsOn]].map taskProgram) state
        (answers.map some) final ∧
      Run (Initialised false card) (Serves card) final
        (List.zipWith exchanges [[reads, reads], [turnsOn]] answers).flatten.reverse := by
  intro card user reads turnsOn
  have board : boardNumPorts card.pciDev.device = some card.numPorts := by
    decide
  have isFscc : fastcomGetCardType ⟨card, 0⟩ = .fscc := rfl
  rcases exists_initialised_fscc isFscc rfl false with ⟨state, initialised⟩
  have apart : TasksApart [[reads, reads], [turnsOn]] := by
    apply tasksApart_of_own
    refine .cons ?_ (.cons (List.forall_mem_nil _) .nil)
    intro other isOther
    obtain rfl := List.mem_singleton.mp isOther
    have own : reads.Own := by
      intro location inFootprint
      obtain rfl := List.mem_singleton.mp inFootprint
      rfl
    refine ⟨by decide, .inl ?_⟩
    intro early member
    have same : early = reads := by simpa using member
    exact same ▸ own
  have mixed : ∃ (answers : List (List Response)) (final : CardState), Mixed card.machine
      ([[reads, reads], [turnsOn]].map taskProgram) state
      (answers.map some) final := by
    exact ⟨[[_, _], [_]], _,
      @Mixed.turn _ _ _ _ _ [taskProgram [reads, reads]] [] _ _ _ _ _
        (@Mixed.turn _ _ _ _ _ [] [_] _ _ _ _ _
          (@Mixed.turn _ _ _ _ _ [_] [] _ _ _ _ _
            (@Mixed.turn _ _ _ _ _ [] [_] _ _ _ _ _
              (.ended (.cons (.done _) (.cons (.done _) .nil))))))⟩
  rcases mixed with ⟨answers, final, mixed⟩
  have linear := (tasks_linearise board (.start initialised) apart mixed).2
    answers rfl
  rw [List.append_nil] at linear
  exact ⟨state, final, answers, initialised, mixed, linear.1⟩

end SerialFc
