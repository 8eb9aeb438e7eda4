import SerialFc.Foundation.History
import SerialFc.Foundation.Program

/-! # Wires that programs drive

What a state shows to the outside are wires with levels. A program moves a wire
straight if each of its commands leaves it alone or puts it where the program drives
it: the wire is never anywhere else, and never comes back.
-/

namespace SerialFc

variable {Wire Level : Type}

/-! ## Steps -/

section Steps

variable {Command : Type} {Response : Command → Type} {State α : Type}
  (machine : Machine Command Response State) (level : State → Wire → Level)

def Machine.Drives (driven : List (Wire × Level)) (wire : Wire)
    (step : State × Command) : Prop :=
  level (machine.execute step.1 step.2).2 wire = level step.1 wire ∨
    (wire, level (machine.execute step.1 step.2).2 wire) ∈ driven

variable {machine level} {driven : List (Wire × Level)} {wire : Wire}

theorem Machine.Drives.mono {more : List (Wire × Level)} {step : State × Command}
    (drives : machine.Drives level driven wire step) (subset : driven ⊆ more) :
    machine.Drives level more wire step :=
  drives.imp id fun member => subset member

theorem Machine.level_run_of_not_driven {program : Program Command Response α}
    {state : State}
    (drives : ∀ step ∈ machine.steps program state,
      machine.Drives level driven wire step)
    (notDriven : ∀ value, (wire, value) ∉ driven) :
    level (machine.run program state).2 wire = level state wire :=
  machine.run_preserves (fun later => level later wire = level state wire) program state
    (fun step member same => by
      rcases drives step member with stays | moves
      · exact stays.trans same
      · exact absurd moves (notDriven _))
    rfl

theorem Machine.forall_steps_perform {holds : State × Command → Prop}
    {command : Command} {next : Response command → Program Command Response α}
    {state : State} :
    (∀ step ∈ machine.steps (.perform command .done >>= next) state, holds step) ↔
      holds (state, command) ∧
        ∀ step ∈ machine.steps (next (machine.execute state command).1)
          (machine.execute state command).2, holds step :=
  List.forall_mem_cons

end Steps

/-! ## Runs -/

section Runs

variable [DecidableEq Wire] {Event : Type} (drives : Event → List (Wire × Level))
  (wire : Wire)

def lastLevel (start : Level) : List Event → Level
  | [] => start
  | event :: earlier => ((drives event).lookup wire).getD (lastLevel start earlier)

variable {drives wire}

/-- Along a run the wire is where it was last driven to. -/
theorem Run.level_eq {State : Type} {start : State → Prop}
    {step : State → Event → State → Prop} {state : State} {history : List Event}
    {level : State → Wire → Level} {initial : Level}
    (run : Run start step state history)
    (initially : ∀ state, start state → level state wire = initial)
    (drivesTo : ∀ state event next, step state event next →
      level next wire = ((drives event).lookup wire).getD (level state wire)) :
    level state wire = lastLevel drives wire initial history := by
  induction run with
  | start started => exact initially _ started
  | step _ stepped induction => rw [drivesTo _ _ _ stepped, induction, lastLevel]

theorem lastLevel_filter {keep : Event → Bool} {initial : Level} {history : List Event}
    (others : ∀ event ∈ history, keep event = false →
      (drives event).lookup wire = none) :
    lastLevel drives wire initial (history.filter keep) =
      lastLevel drives wire initial history := by
  induction history with
  | nil => rfl
  | cons event earlier induction =>
      have rest := induction fun other member => others other (.tail _ member)
      cases kept : keep event with
      | true => rw [List.filter_cons_of_pos kept, lastLevel, lastLevel, rest]
      | false =>
          have none := others event (.head _) kept
          rw [List.filter_cons_of_neg (by simp [kept]), rest, lastLevel, none,
            Option.getD_none]

end Runs

end SerialFc
