import SerialFc.Foundation.Interleaving

/-! # Any number of programs at once

Tasks that take turns on one state, a command at a time. Tasks that are apart,
each command of one commuting with each of the other, might as well have run
one after the other.
-/

namespace SerialFc

variable {Command : Type} {Response : Command → Type} {State α : Type}

def Program.Apart (machine : Machine Command Response State)
    (first second : Program Command Response α) : Prop :=
  first.Performs fun early => second.Performs fun late =>
    machine.Commutes early late

section Apart

variable {machine : Machine Command Response State}

theorem Program.apart_of_performs {first second : Program Command Response α}
    {firstAllowed secondAllowed : Command → Prop}
    (firstPerforms : first.Performs firstAllowed)
    (secondPerforms : second.Performs secondAllowed)
    (commute : ∀ early late, firstAllowed early → secondAllowed late →
      machine.Commutes early late) :
    first.Apart machine second :=
  firstPerforms.mono fun early isFirst =>
    secondPerforms.mono fun late isSecond => commute early late isFirst isSecond

theorem Program.Apart.rest_right {first : Program Command Response α}
    {command : Command} {next : Response command → Program Command Response α}
    (apart : first.Apart machine (.perform command next))
    (response : Response command) : first.Apart machine (next response) :=
  apart.mono fun _ performs => performs.2 response

theorem Program.Apart.rest_left {second : Program Command Response α}
    {command : Command} {next : Response command → Program Command Response α}
    (apart : Program.Apart machine (.perform command next) second)
    (response : Response command) : (next response).Apart machine second :=
  apart.2 response

end Apart

inductive Mixed (machine : Machine Command Response State) :
    List (Program Command Response α) → State → List (Option α) → State → Prop
  | ended {tasks : List (Program Command Response α)} {results : List (Option α)}
      {state : State} (ended : List.Forall₂ Program.Ended tasks results) :
      Mixed machine tasks state results state
  | turn {earlier later : List (Program Command Response α)} {command : Command}
      {next : Response command → Program Command Response α} {state final : State}
      {results : List (Option α)}
      (rest : Mixed machine
        (earlier ++ next (machine.execute state command).1 :: later)
        (machine.execute state command).2 results final) :
      Mixed machine (earlier ++ .perform command next :: later) state results final

namespace Machine

def runInTurn (machine : Machine Command Response State) :
    List (Program Command Response α) → State → List (Option α) × State
  | [], state => ([], state)
  | task :: tasks, state =>
      let (result, middle) := machine.run task state
      let (results, final) := machine.runInTurn tasks middle
      (result :: results, final)

variable {machine : Machine Command Response State}

theorem runInTurn_cons (task : Program Command Response α)
    (tasks : List (Program Command Response α)) (state : State) :
    machine.runInTurn (task :: tasks) state =
      ((machine.run task state).1 ::
          (machine.runInTurn tasks (machine.run task state).2).1,
        (machine.runInTurn tasks (machine.run task state).2).2) := rfl

theorem runInTurn_of_ended {tasks : List (Program Command Response α)}
    {results : List (Option α)}
    (ended : List.Forall₂ Program.Ended tasks results) (state : State) :
    machine.runInTurn tasks state = (results, state) := by
  induction ended with
  | nil => rfl
  | cons first rest induction => rw [runInTurn_cons, first.run, induction]

theorem run_wait_of_performs {command : Command}
    {task : Program Command Response α}
    (commutes : task.Performs fun early => machine.Commutes early command)
    (state : State) :
    machine.run task (machine.execute state command).2 =
        ((machine.run task state).1,
          (machine.execute (machine.run task state).2 command).2) ∧
      (machine.execute (machine.run task state).2 command).1 =
        (machine.execute state command).1 := by
  have waits : ∀ later ∈ machine.trace task (machine.execute state command).2,
      machine.Commutes command later := by
    intro later member
    rcases List.mem_map.mp member with ⟨step, isStep, rfl⟩
    exact (machine.performs_steps commutes _ step isStep).symm
  exact ⟨run_wait waits, response_wait waits⟩

theorem runInTurn_wait {command : Command}
    {next : Response command → Program Command Response α}
    {earlier later : List (Program Command Response α)}
    (commutes : ∀ task ∈ earlier,
      task.Performs fun early => machine.Commutes early command)
    (state : State) :
    machine.runInTurn
        (earlier ++ next (machine.execute state command).1 :: later)
        (machine.execute state command).2 =
      machine.runInTurn (earlier ++ .perform command next :: later) state := by
  induction earlier generalizing state with
  | nil => rfl
  | cons task earlier induction =>
      rcases run_wait_of_performs (commutes task List.mem_cons_self) state with
        ⟨run, response⟩
      have rest := induction
        (fun other member => commutes other (List.mem_cons_of_mem _ member))
        (machine.run task state).2
      rw [response] at rest
      simp only [List.cons_append, runInTurn_cons, run, rest]

end Machine

namespace Mixed

variable {machine : Machine Command Response State}
  {tasks : List (Program Command Response α)} {state final : State}
  {results : List (Option α)}

/-- However tasks that are apart mix, they end as one after the other. -/
theorem eq_runInTurn (mixed : Mixed machine tasks state results final)
    (apart : tasks.Pairwise (Program.Apart machine)) :
    (results, final) = machine.runInTurn tasks state := by
  induction mixed with
  | ended ended => exact (Machine.runInTurn_of_ended ended _).symm
  | @turn earlier later command next state final results rest induction =>
      rcases List.pairwise_append.mp apart with ⟨early, late, across⟩
      rcases List.pairwise_cons.mp late with ⟨first, lateRest⟩
      have stillApart : (earlier ++ next (machine.execute state command).1 ::
          later).Pairwise (Program.Apart machine) := by
        refine List.pairwise_append.mpr ⟨early, List.pairwise_cons.mpr ⟨?_, lateRest⟩, ?_⟩
        · exact fun task member => (first task member).rest_left _
        · intro task member other otherMember
          rcases List.mem_cons.mp otherMember with rfl | isLater
          · exact (across task member _ List.mem_cons_self).rest_right _
          · exact across task member other (List.mem_cons_of_mem _ isLater)
      have commutes : ∀ task ∈ earlier,
          task.Performs fun early => machine.Commutes early command :=
        fun task member =>
          (across task member _ List.mem_cons_self).mono fun _ performs => performs.1
      rw [induction stillApart]
      exact Machine.runInTurn_wait commutes state

end Mixed

end SerialFc
