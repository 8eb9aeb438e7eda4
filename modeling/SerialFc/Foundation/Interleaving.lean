import SerialFc.Foundation.Program
import Mathlib.Data.List.Basic

/-! # Two programs at once

Two programs that take turns on one state, a command at a time. A command that
commutes with what the other program does next can wait, and when all that are
out of place can wait, the programs might as well have run one after the other.
-/

namespace SerialFc

variable {Command : Type} {Response : Command → Type} {State α β : Type}

inductive Side
  | left
  | right
  deriving DecidableEq

def Side.other : Side → Side
  | .left => .right
  | .right => .left

@[simp] theorem Side.other_other (side : Side) : side.other.other = side := by
  cases side <;> rfl

structure Outcome (α β State : Type) where
  left : Option α
  right : Option β
  state : State

def Outcome.swap (outcome : Outcome α β State) : Outcome β α State :=
  ⟨outcome.right, outcome.left, outcome.state⟩

inductive Program.Ended : Program Command Response α → Option α → Prop
  | done (value : α) : Ended (.done value) (some value)
  | trap : Ended .trap none

theorem Program.Ended.run {machine : Machine Command Response State}
    {program : Program Command Response α} {value : Option α}
    (ended : program.Ended value) (state : State) :
    machine.run program state = (value, state) := by
  cases ended <;> rfl

namespace Machine

variable (machine : Machine Command Response State)

def leftFirst (left : Program Command Response α)
    (right : Program Command Response β) (state : State) : Outcome α β State :=
  let middle := (machine.run left state).2
  ⟨(machine.run left state).1, (machine.run right middle).1,
    (machine.run right middle).2⟩

def rightFirst (left : Program Command Response α)
    (right : Program Command Response β) (state : State) : Outcome α β State :=
  (machine.leftFirst right left state).swap

/-- Either order gives the same state and the same two responses. -/
structure Commutes (first second : Command) : Prop where
  state : ∀ state,
    (machine.execute (machine.execute state first).2 second).2 =
      (machine.execute (machine.execute state second).2 first).2
  firstResponse : ∀ state,
    (machine.execute (machine.execute state second).2 first).1 =
      (machine.execute state first).1
  secondResponse : ∀ state,
    (machine.execute (machine.execute state first).2 second).1 =
      (machine.execute state second).1

theorem Commutes.symm {machine : Machine Command Response State}
    {first second : Command} (commutes : machine.Commutes first second) :
    machine.Commutes second first :=
  ⟨fun state => (commutes.state state).symm, commutes.secondResponse,
    commutes.firstResponse⟩

theorem commutes_of_keeps {first second : Command}
    (firstKeeps : ∀ state, (machine.execute state first).2 = state)
    (secondKeeps : ∀ state, (machine.execute state second).2 = state) :
    machine.Commutes first second where
  state state := by simp only [firstKeeps, secondKeeps]
  firstResponse state := by rw [secondKeeps]
  secondResponse state := by rw [firstKeeps]

theorem trace_perform (command : Command)
    (next : Response command → Program Command Response α) (state : State) :
    machine.trace (.perform command next) state =
      command :: machine.trace (next (machine.execute state command).1)
        (machine.execute state command).2 := rfl

variable {machine}

section Wait

variable {command : Command} {program : Program Command Response α}
  {state : State}

theorem run_wait
    (commutes : ∀ later ∈
        machine.trace program (machine.execute state command).2,
      machine.Commutes command later) :
    machine.run program (machine.execute state command).2 =
      ((machine.run program state).1,
        (machine.execute (machine.run program state).2 command).2) := by
  induction program generalizing state with
  | done value => rfl
  | perform later next induction =>
      have commute := commutes later List.mem_cons_self
      have response := commute.secondResponse state
      have after := commute.state state
      rw [trace_perform, response, after] at commutes
      simp only [run, response, after]
      exact induction _ fun other member =>
        commutes other (List.mem_cons_of_mem _ member)
  | trap => rfl

theorem response_wait
    (commutes : ∀ later ∈
        machine.trace program (machine.execute state command).2,
      machine.Commutes command later) :
    (machine.execute (machine.run program state).2 command).1 =
      (machine.execute state command).1 := by
  induction program generalizing state with
  | done value => rfl
  | perform later next induction =>
      have commute := commutes later List.mem_cons_self
      rw [trace_perform, commute.secondResponse state,
        commute.state state] at commutes
      exact (induction _ fun other member =>
        commutes other (List.mem_cons_of_mem _ member)).trans
          (commute.firstResponse state)
  | trap => rfl

theorem trace_wait
    (commutes : ∀ later ∈
        machine.trace program (machine.execute state command).2,
      machine.Commutes command later) :
    machine.trace program (machine.execute state command).2 =
      machine.trace program state := by
  induction program generalizing state with
  | done value => rfl
  | perform later next induction =>
      have commute := commutes later List.mem_cons_self
      have response := commute.secondResponse state
      have after := commute.state state
      rw [trace_perform, response, after] at commutes
      simp only [trace_perform, response, after]
      exact congrArg (List.cons later) (induction _ fun other member =>
        commutes other (List.mem_cons_of_mem _ member))
  | trap => rfl

end Wait

end Machine

/-! ## Interleavings -/

/-- Both programs run to their ends, in turns as the trace has them. -/
inductive Interleaves (machine : Machine Command Response State) :
    Program Command Response α → Program Command Response β → State →
      List (Side × Command) → Outcome α β State → Prop
  | ended {left : Program Command Response α} {right : Program Command Response β}
      {state : State} {first : Option α} {second : Option β}
      (leftEnded : left.Ended first) (rightEnded : right.Ended second) :
      Interleaves machine left right state [] ⟨first, second, state⟩
  | left {command : Command} {next : Response command → Program Command Response α}
      {right : Program Command Response β} {state : State}
      {trace : List (Side × Command)} {outcome : Outcome α β State}
      (rest : Interleaves machine (next (machine.execute state command).1) right
        (machine.execute state command).2 trace outcome) :
      Interleaves machine (.perform command next) right state
        ((.left, command) :: trace) outcome
  | right {command : Command} {next : Response command → Program Command Response β}
      {left : Program Command Response α} {state : State}
      {trace : List (Side × Command)} {outcome : Outcome α β State}
      (rest : Interleaves machine left (next (machine.execute state command).1)
        (machine.execute state command).2 trace outcome) :
      Interleaves machine left (.perform command next) state
        ((.right, command) :: trace) outcome

def swapStep (step : Side × Command) : Side × Command :=
  (step.1.other, step.2)

/-- The left program comes first, up to commands that can wait: each command
of the right one commutes with what the left one performs after it. -/
def LeftAhead (machine : Machine Command Response State)
    (trace : List (Side × Command)) : Prop :=
  trace.Pairwise fun early late =>
    early.1 = .right → late.1 = .left → machine.Commutes early.2 late.2

def RightAhead (machine : Machine Command Response State)
    (trace : List (Side × Command)) : Prop :=
  trace.Pairwise fun early late =>
    early.1 = .left → late.1 = .right → machine.Commutes early.2 late.2

namespace Interleaves

variable {machine : Machine Command Response State}
  {left : Program Command Response α} {right : Program Command Response β}
  {state : State} {trace : List (Side × Command)} {outcome : Outcome α β State}

theorem swap (interleaves : Interleaves machine left right state trace outcome) :
    Interleaves machine right left state (trace.map swapStep) outcome.swap := by
  induction interleaves with
  | ended leftEnded rightEnded => exact .ended rightEnded leftEnded
  | left rest induction => exact .right induction
  | right rest induction => exact .left induction

theorem performs {leftAllowed rightAllowed : Command → Prop}
    (interleaves : Interleaves machine left right state trace outcome)
    (leftPerforms : left.Performs leftAllowed)
    (rightPerforms : right.Performs rightAllowed) :
    ∀ step ∈ trace, (step.1 = .left → leftAllowed step.2) ∧
      (step.1 = .right → rightAllowed step.2) := by
  induction interleaves with
  | ended leftEnded rightEnded =>
      intro step member
      cases member
  | left rest induction =>
      intro step member
      rcases List.mem_cons.mp member with equal | later
      · rw [equal]
        refine ⟨fun _ => leftPerforms.1, ?_⟩
        intro impossible
        cases impossible
      · exact induction (leftPerforms.2 _) rightPerforms step later
  | right rest induction =>
      intro step member
      rcases List.mem_cons.mp member with equal | later
      · rw [equal]
        refine ⟨?_, fun _ => rightPerforms.1⟩
        intro impossible
        cases impossible
      · exact induction leftPerforms (rightPerforms.2 _) step later

theorem trace_left
    (interleaves : Interleaves machine left right state trace outcome)
    (ahead : LeftAhead machine trace) :
    ∀ command ∈ machine.trace left state, (.left, command) ∈ trace := by
  induction interleaves with
  | ended leftEnded rightEnded =>
      intro command member
      cases leftEnded <;> cases member
  | left rest induction =>
      intro command member
      rcases List.mem_cons.mp member with equal | later
      · rw [equal]
        exact List.mem_cons_self
      · exact List.mem_cons_of_mem _
          (induction (List.pairwise_cons.mp ahead).2 command later)
  | right rest induction =>
      intro command member
      rcases List.pairwise_cons.mp ahead with ⟨waits, restAhead⟩
      have alone := induction restAhead
      have same := Machine.trace_wait fun later performed =>
        waits _ (alone later performed) rfl rfl
      rw [← same] at member
      exact List.mem_cons_of_mem _ (alone command member)

/-- With the left program ahead, an interleaving is a run of the left program
and then of the right one. -/
theorem eq_leftFirst
    (interleaves : Interleaves machine left right state trace outcome)
    (ahead : LeftAhead machine trace) :
    outcome = machine.leftFirst left right state := by
  induction interleaves with
  | ended leftEnded rightEnded =>
      simp only [Machine.leftFirst, leftEnded.run, rightEnded.run]
  | left rest induction => exact induction (List.pairwise_cons.mp ahead).2
  | @right command next left state trace outcome rest induction =>
      rcases List.pairwise_cons.mp ahead with ⟨waits, restAhead⟩
      have alone := trace_left rest restAhead
      have commutes : ∀ later ∈
          machine.trace left (machine.execute state command).2,
          machine.Commutes command later :=
        fun later performed => waits _ (alone later performed) rfl rfl
      rw [induction restAhead]
      simp only [Machine.leftFirst, Machine.run_wait commutes, Machine.run,
        Machine.response_wait commutes]

theorem eq_rightFirst
    (interleaves : Interleaves machine left right state trace outcome)
    (ahead : RightAhead machine trace) :
    outcome = machine.rightFirst left right state := by
  have swapped : LeftAhead machine (trace.map swapStep) := by
    apply List.Pairwise.map swapStep _ ahead
    intro early late commutes earlyRight lateLeft
    apply commutes
    · rw [← Side.other_other early.1]
      exact congrArg Side.other earlyRight
    · rw [← Side.other_other late.1]
      exact congrArg Side.other lateLeft
  exact congrArg Outcome.swap (interleaves.swap.eq_leftFirst swapped)

/-- Programs whose commands all commute can be run in either order. -/
theorem eq_both {leftAllowed rightAllowed : Command → Prop}
    (interleaves : Interleaves machine left right state trace outcome)
    (leftPerforms : left.Performs leftAllowed)
    (rightPerforms : right.Performs rightAllowed)
    (commute : ∀ first second, leftAllowed first → rightAllowed second →
      machine.Commutes first second) :
    outcome = machine.leftFirst left right state ∧
      outcome = machine.rightFirst left right state := by
  have allowed := interleaves.performs leftPerforms rightPerforms
  constructor
  · apply interleaves.eq_leftFirst
    apply List.pairwise_of_forall_mem_list
    intro early earlyMember late lateMember earlyRight lateLeft
    exact (commute _ _ ((allowed late lateMember).1 lateLeft)
      ((allowed early earlyMember).2 earlyRight)).symm
  · apply interleaves.eq_rightFirst
    apply List.pairwise_of_forall_mem_list
    intro early earlyMember late lateMember earlyLeft lateRight
    exact commute _ _ ((allowed early earlyMember).1 earlyLeft)
      ((allowed late lateMember).2 lateRight)

end Interleaves

/-! ## The serial orders are interleavings -/

section Serial

variable (machine : Machine Command Response State)
  (left : Program Command Response α) (right : Program Command Response β)
  (state : State)

theorem interleaves_right {first : Option α} (leftEnded : left.Ended first) :
    ∃ trace, Interleaves machine left right state trace
      ⟨first, (machine.run right state).1, (machine.run right state).2⟩ := by
  induction right generalizing state with
  | done value => exact ⟨[], .ended leftEnded (.done value)⟩
  | perform command next induction =>
      rcases induction _ (machine.execute state command).2 with ⟨trace, rest⟩
      exact ⟨_, .right rest⟩
  | trap => exact ⟨[], .ended leftEnded .trap⟩

theorem interleaves_leftFirst :
    ∃ trace, Interleaves machine left right state trace
      (machine.leftFirst left right state) := by
  induction left generalizing state with
  | done value => exact interleaves_right machine _ right state (.done value)
  | perform command next induction =>
      rcases induction _ (machine.execute state command).2 with ⟨trace, rest⟩
      exact ⟨_, .left rest⟩
  | trap => exact interleaves_right machine _ right state .trap

theorem interleaves_rightFirst :
    ∃ trace, Interleaves machine left right state trace
      (machine.rightFirst left right state) := by
  rcases interleaves_leftFirst machine right left state with ⟨trace, serial⟩
  exact ⟨_, serial.swap⟩

end Serial

end SerialFc
