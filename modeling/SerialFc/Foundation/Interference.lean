import SerialFc.Foundation.Interleaving

/-! # A program whose shared reads do not matter

The part of the state that only one of two programs touches can still depend on
the other one, through what the first reads elsewhere. A steady program writes
its own part in the same way whatever it reads elsewhere.
-/

namespace SerialFc

variable {Command : Type} {Response : Command → Type} {State α β : Type}

def pushFront (first : State) (rest : Nat → State) : Nat → State
  | 0 => first
  | index + 1 => rest index

namespace Machine

variable (machine : Machine Command Response State) (shared : Command → Bool)

/-- The machine without the shared part of the state. What a shared command
answers comes out of a stream of states. -/
def detached : Machine Command Response (State × (Nat → State)) where
  execute state command :=
    if shared command then
      ((machine.execute (state.2 0) command).1,
        (state.1, fun index => state.2 (index + 1)))
    else
      ((machine.execute state.1 command).1,
        ((machine.execute state.1 command).2, state.2))

variable {machine shared}

theorem execute_detached_shared {command : Command}
    (isShared : shared command = true) (state : State) (answers : Nat → State) :
    (machine.detached shared).execute (state, answers) command =
      ((machine.execute (answers 0) command).1,
        (state, fun index => answers (index + 1))) :=
  if_pos isShared

theorem execute_detached_own {command : Command}
    (isOwn : shared command = false) (state : State) (answers : Nat → State) :
    (machine.detached shared).execute (state, answers) command =
      ((machine.execute state command).1,
        ((machine.execute state command).2, answers)) := by
  apply if_neg
  rw [isOwn]
  exact Bool.false_ne_true

variable (machine shared)

/-- The answers of shared commands make no difference to the rest. -/
def Steady (program : Program Command Response α) : Prop :=
  ∀ state answers others,
    ((machine.detached shared).run program (state, answers)).2.1 =
      ((machine.detached shared).run program (state, others)).2.1

/-- The answers of shared commands make no difference to what the program comes to. -/
def Certain (program : Program Command Response α) : Prop :=
  ∀ state answers others,
    ((machine.detached shared).run program (state, answers)).1 =
      ((machine.detached shared).run program (state, others)).1

variable {machine shared} {program : Program Command Response α}

theorem run_detached_own
    (own : program.Performs fun command => shared command = false)
    (state : State) (answers : Nat → State) :
    (machine.detached shared).run program (state, answers) =
      ((machine.run program state).1, ((machine.run program state).2, answers)) := by
  induction program generalizing state with
  | done value => rfl
  | perform command next induction =>
      simp only [run, execute_detached_own own.1]
      exact induction _ (own.2 _) _
  | trap => rfl

theorem steady_of_own
    (own : program.Performs fun command => shared command = false) :
    machine.Steady shared program := by
  intro state answers others
  rw [run_detached_own own, run_detached_own own]

theorem certain_of_own
    (own : program.Performs fun command => shared command = false) :
    machine.Certain shared program := by
  intro state answers others
  rw [run_detached_own own, run_detached_own own]

theorem certain_of_ends {result : Option α}
    (ends : program.Ends fun ending => ending = result) :
    machine.Certain shared program := by
  intro state answers others
  exact (run_ends _ ends _).trans (run_ends _ ends _).symm

theorem steady_of_quiet
    (quiet : program.Performs fun command =>
      shared command = true ∨ ∀ state, (machine.execute state command).2 = state) :
    machine.Steady shared program := by
  have keeps : ∀ state answers,
      ((machine.detached shared).run program (state, answers)).2.1 = state := by
    intro state answers
    induction program generalizing answers with
    | done value => rfl
    | perform command next induction =>
        cases isShared : shared command with
        | true =>
            simp only [run, execute_detached_shared isShared]
            exact induction _ (quiet.2 _) _
        | false =>
            have unchanged := quiet.1.resolve_left fun impossible =>
              Bool.false_ne_true (isShared.symm.trans impossible)
            simp only [run, execute_detached_own isShared, unchanged]
            exact induction _ (quiet.2 _) _
    | trap => rfl
  intro state answers others
  rw [keeps, keeps]

theorem Steady.map (steady : machine.Steady shared program) (f : α → β) :
    machine.Steady shared (f <$> program) := by
  intro state answers others
  simpa using steady state answers others

end Machine

/-! ## The part of one program in an interleaving -/

/-- The view is the part of the state that, of all allowed commands, only those
of the left program touch that are not shared, and that these read nothing
else than. -/
structure Machine.Separates (machine : Machine Command Response State)
    (shared : Command → Bool) {View : Type} (view : State → View)
    (leftAllowed rightAllowed : Command → Prop) : Prop where
  own : ∀ command, leftAllowed command → shared command = false →
    ∀ first second, view first = view second →
      (machine.execute first command).1 = (machine.execute second command).1 ∧
      view (machine.execute first command).2 =
        view (machine.execute second command).2
  shared : ∀ command, leftAllowed command → shared command = true →
    ∀ state, view (machine.execute state command).2 = view state
  foreign : ∀ command, rightAllowed command →
    ∀ state, view (machine.execute state command).2 = view state

namespace Interleaves

variable {machine : Machine Command Response State} {shared : Command → Bool}
  {View : Type} {view : State → View} {leftAllowed rightAllowed : Command → Prop}
  {left : Program Command Response α} {right : Program Command Response β}
  {state : State} {trace : List (Side × Command)} {outcome : Outcome α β State}

/-- Seen through the view, the left program ran on its own and was answered
from the states in which it made its shared commands. -/
theorem view_detached
    (interleaves : Interleaves machine left right state trace outcome)
    (separates : machine.Separates shared view leftAllowed rightAllowed)
    (leftPerforms : left.Performs leftAllowed)
    (rightPerforms : right.Performs rightAllowed)
    {alone : State} (same : view state = view alone) :
    ∃ answers,
      view outcome.state =
        view ((machine.detached shared).run left (alone, answers)).2.1 ∧
      outcome.left = ((machine.detached shared).run left (alone, answers)).1 := by
  induction interleaves generalizing alone with
  | ended leftEnded rightEnded =>
      refine ⟨fun _ => alone, ?_⟩
      rw [leftEnded.run]
      exact ⟨same, rfl⟩
  | @left command next right state trace outcome rest induction =>
      cases isShared : shared command with
      | true =>
          have kept := separates.shared command leftPerforms.1 isShared state
          rcases induction (leftPerforms.2 _) rightPerforms (kept.trans same)
            with ⟨answers, seen⟩
          refine ⟨pushFront state answers, ?_⟩
          simp only [Machine.run, Machine.execute_detached_shared isShared]
          exact seen
      | false =>
          rcases separates.own command leftPerforms.1 isShared _ _ same with
            ⟨response, after⟩
          rcases induction (leftPerforms.2 _) rightPerforms after with
            ⟨answers, seen⟩
          refine ⟨answers, ?_⟩
          simp only [Machine.run, Machine.execute_detached_own isShared,
            ← response]
          exact seen
  | @right command next left state trace outcome rest induction =>
      have kept := separates.foreign command rightPerforms.1 state
      exact induction leftPerforms (rightPerforms.2 _) (kept.trans same)

/-- All interleavings with a steady program leave its part the same. -/
theorem view_left
    (interleaves : Interleaves machine left right state trace outcome)
    (separates : machine.Separates shared view leftAllowed rightAllowed)
    (leftPerforms : left.Performs leftAllowed)
    (rightPerforms : right.Performs rightAllowed)
    (steady : machine.Steady shared left)
    {otherTrace : List (Side × Command)} {other : Outcome α β State}
    (otherInterleaves : Interleaves machine left right state otherTrace other) :
    view outcome.state = view other.state := by
  rcases interleaves.view_detached separates leftPerforms rightPerforms rfl with
    ⟨answers, seen, _⟩
  rcases otherInterleaves.view_detached separates leftPerforms rightPerforms rfl
    with ⟨others, otherSeen, _⟩
  rw [seen, otherSeen, steady state answers others]

theorem result_left
    (interleaves : Interleaves machine left right state trace outcome)
    (separates : machine.Separates shared view leftAllowed rightAllowed)
    (leftPerforms : left.Performs leftAllowed)
    (rightPerforms : right.Performs rightAllowed)
    (certain : machine.Certain shared left)
    {otherTrace : List (Side × Command)} {other : Outcome α β State}
    (otherInterleaves : Interleaves machine left right state otherTrace other) :
    outcome.left = other.left := by
  rcases interleaves.view_detached separates leftPerforms rightPerforms rfl with
    ⟨answers, _, result⟩
  rcases otherInterleaves.view_detached separates leftPerforms rightPerforms rfl
    with ⟨others, _, otherResult⟩
  rw [result, otherResult, certain state answers others]

theorem view_kept
    (interleaves : Interleaves machine left right state trace outcome)
    (leftPerforms : left.Performs leftAllowed)
    (rightPerforms : right.Performs rightAllowed)
    (kept : ∀ command, leftAllowed command ∨ rightAllowed command →
      ∀ state, view (machine.execute state command).2 = view state) :
    view outcome.state = view state := by
  induction interleaves with
  | ended leftEnded rightEnded => rfl
  | left rest induction =>
      exact (induction (leftPerforms.2 _) rightPerforms).trans
        (kept _ (.inl leftPerforms.1) _)
  | right rest induction =>
      exact (induction leftPerforms (rightPerforms.2 _)).trans
        (kept _ (.inr rightPerforms.1) _)

end Interleaves

end SerialFc
