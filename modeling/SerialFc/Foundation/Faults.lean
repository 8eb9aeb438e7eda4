import SerialFc.Foundation.Program

/-! # Commands that may fault

A machine answers every command. Where carrying out a command is itself a
program that may trap, the fault ends the program that performed it.
-/

namespace SerialFc

variable {Command : Type} {Response : Command → Type} {State α β : Type}

namespace Program

/-- Run a program whose commands are carried out as given. Nothing comes of it
where one of them faults. -/
def runWith
    (execute : (command : Command) → State → Option (Response command × State)) :
    Program Command Response α → State → Option (α × State)
  | .done value, state => some (value, state)
  | .perform command next, state =>
      match execute command state with
      | some (response, after) => (next response).runWith execute after
      | none => none
  | .trap, _ => none

section RunWith

variable
  (execute : (command : Command) → State → Option (Response command × State))

@[simp] theorem runWith_pure (value : α) (state : State) :
    (pure value : Program Command Response α).runWith execute state =
      some (value, state) := rfl

@[simp] theorem runWith_perform_done (command : Command) (state : State) :
    (.perform command .done : Program Command Response _).runWith execute state =
      execute command state := by
  rw [runWith]
  rcases execute command state with _ | ⟨response, after⟩ <;> rfl

theorem runWith_bind (program : Program Command Response α)
    (continuation : α → Program Command Response β) (state : State) :
    (program >>= continuation).runWith execute state =
      match program.runWith execute state with
      | some (value, after) => (continuation value).runWith execute after
      | none => none := by
  rw [bind_eq]
  induction program generalizing state with
  | done value => rfl
  | perform command next induction =>
      simp only [bind, runWith]
      rcases execute command state with _ | ⟨response, after⟩
      · rfl
      · exact induction response after
  | trap => rfl

/-- What the commands of a program keep, the program keeps if it returns. -/
theorem runWith_preserves {execute} (property : State → Prop)
    {allowed : Command → Prop}
    (keeps : ∀ command, allowed command → ∀ state response after,
      execute command state = some (response, after) → property state →
      property after)
    {program : Program Command Response α} (performs : program.Performs allowed)
    {state after : State} {value : α}
    (run : program.runWith execute state = some (value, after))
    (initially : property state) : property after := by
  induction program generalizing state with
  | done value =>
      cases run
      exact initially
  | perform command next induction =>
      rw [runWith] at run
      rcases executed : execute command state with _ | ⟨response, middle⟩
      · rw [executed] at run
        cases run
      · rw [executed] at run
        exact induction response (performs.2 response) run
          (keeps command performs.1 _ _ _ executed initially)
  | trap => cases run

end RunWith

end Program

end SerialFc
