import Mathlib.Logic.Function.Basic

/-! # Programs over a command signature

A program performs commands one at a time and continues with each response.
Keeping the individual commands visible lets one definition serve sequential
execution, the record of what was performed, and interleaved execution.
-/

namespace SerialFc

/-- A finite program tree. `trap` is a fault that ends the program without a
value, such as a division by zero. -/
inductive Program (Command : Type) (Response : Command → Type) (α : Type) where
  | done (value : α)
  | perform (command : Command)
      (next : Response command → Program Command Response α)
  | trap

structure Machine (Command : Type) (Response : Command → Type) (State : Type) where
  execute : State → (command : Command) → Response command × State

variable {Command : Type} {Response : Command → Type} {State α β : Type}

namespace Program

def bind (program : Program Command Response α)
    (continuation : α → Program Command Response β) :
    Program Command Response β :=
  match program with
  | .done value => continuation value
  | .perform command next =>
      .perform command fun response => (next response).bind continuation
  | .trap => .trap

instance : Monad (Program Command Response) where
  pure := .done
  bind := bind

theorem bind_eq (program : Program Command Response α)
    (continuation : α → Program Command Response β) :
    program >>= continuation = program.bind continuation := rfl

@[simp] theorem trap_bind (continuation : α → Program Command Response β) :
    (.trap : Program Command Response α) >>= continuation = .trap := rfl

theorem bind_assoc {γ : Type} (program : Program Command Response α)
    (first : α → Program Command Response β)
    (second : β → Program Command Response γ) :
    (program.bind first).bind second =
      program.bind fun value => (first value).bind second := by
  induction program with
  | done value => rfl
  | perform command next induction =>
      simp only [bind]
      congr
      funext response
      exact induction response
  | trap => rfl

theorem bind_done (program : Program Command Response α) :
    program.bind .done = program := by
  induction program with
  | done value => rfl
  | perform command next induction =>
      simp only [bind]
      congr
      funext response
      exact induction response
  | trap => rfl

instance : LawfulMonad (Program Command Response) :=
  LawfulMonad.mk' _ bind_done (fun _ _ => rfl) bind_assoc

def Performs (allowed : Command → Prop) : Program Command Response α → Prop
  | .done _ => True
  | .perform command next =>
      allowed command ∧ ∀ response, (next response).Performs allowed
  | .trap => True

section Performs

variable {allowed : Command → Prop}

@[simp] theorem performs_pure (value : α) :
    (pure value : Program Command Response α).Performs allowed := trivial

@[simp] theorem performs_trap :
    (.trap : Program Command Response α).Performs allowed := trivial

@[simp] theorem performs_perform_done (command : Command) :
    (.perform command .done : Program Command Response _).Performs allowed ↔
      allowed command :=
  ⟨fun performs => performs.1, fun isAllowed => ⟨isAllowed, fun _ => trivial⟩⟩

@[simp] theorem performs_perform_bind (command : Command)
    (continuation : Response command → Program Command Response α) :
    (.perform command .done >>= continuation : Program Command Response α).Performs
        allowed ↔
      allowed command ∧ ∀ response, (continuation response).Performs allowed :=
  Iff.rfl

@[simp] theorem performs_ite {condition : Prop} [Decidable condition]
    (first second : Program Command Response α) :
    (if condition then first else second).Performs allowed ↔
      (condition → first.Performs allowed) ∧
        (¬condition → second.Performs allowed) := by
  by_cases holds : condition <;> simp [holds]

@[simp] theorem performs_map (program : Program Command Response α) (f : α → β) :
    (f <$> program).Performs allowed ↔ program.Performs allowed := by
  induction program with
  | done value => exact Iff.rfl
  | perform command next induction =>
      exact and_congr_right fun _ => forall_congr' induction
  | trap => exact Iff.rfl

theorem performs_bind {program : Program Command Response α}
    {continuation : α → Program Command Response β}
    (first : program.Performs allowed)
    (second : ∀ value, (continuation value).Performs allowed) :
    (program >>= continuation).Performs allowed := by
  rw [bind_eq]
  induction program with
  | done value => exact second value
  | perform command next induction =>
      exact ⟨first.1, fun response => induction response (first.2 response)⟩
  | trap => trivial

theorem performs_all (program : Program Command Response α) :
    program.Performs fun _ => True := by
  induction program with
  | done value => trivial
  | perform command next induction => exact ⟨trivial, induction⟩
  | trap => trivial

theorem Performs.mono {program : Program Command Response α}
    {weaker : Command → Prop} (performs : program.Performs allowed)
    (weaken : ∀ command, allowed command → weaker command) :
    program.Performs weaker := by
  induction program with
  | done value => trivial
  | perform command next induction =>
      exact ⟨weaken _ performs.1, fun response => induction _ (performs.2 _)⟩
  | trap => trivial

end Performs

/-- Whatever the responses, the program ends in a way that is allowed. -/
def Ends (allowed : Option α → Prop) : Program Command Response α → Prop
  | .done value => allowed (some value)
  | .perform _ next => ∀ response, (next response).Ends allowed
  | .trap => allowed none

section Ends

variable {allowed : Option α → Prop}

@[simp] theorem ends_pure (value : α) :
    (pure value : Program Command Response α).Ends allowed ↔
      allowed (some value) := Iff.rfl

@[simp] theorem ends_done (value : α) :
    (.done value : Program Command Response α).Ends allowed ↔
      allowed (some value) := Iff.rfl

@[simp] theorem ends_perform (command : Command)
    (next : Response command → Program Command Response α) :
    (.perform command next : Program Command Response α).Ends allowed ↔
      ∀ response, (next response).Ends allowed := Iff.rfl

@[simp] theorem ends_map (program : Program Command Response β) (f : β → α) :
    (f <$> program).Ends allowed ↔
      program.Ends fun result => allowed (result.map f) := by
  induction program with
  | done value => exact Iff.rfl
  | perform command next induction => exact forall_congr' induction
  | trap => exact Iff.rfl

@[simp] theorem ends_perform_bind (command : Command)
    (continuation : Response command → Program Command Response α) :
    (.perform command .done >>= continuation : Program Command Response α).Ends
        allowed ↔ ∀ response, (continuation response).Ends allowed := Iff.rfl

@[simp] theorem ends_ite {condition : Prop} [Decidable condition]
    (first second : Program Command Response α) :
    (if condition then first else second).Ends allowed ↔
      (condition → first.Ends allowed) ∧ (¬condition → second.Ends allowed) := by
  by_cases holds : condition <;> simp [holds]

theorem Ends.mono {program : Program Command Response α}
    {weaker : Option α → Prop} (ends : program.Ends allowed)
    (weaken : ∀ result, allowed result → weaker result) :
    program.Ends weaker := by
  induction program with
  | done value => exact weaken _ ends
  | perform command next induction =>
      exact fun response => induction response (ends response)
  | trap => exact weaken _ ends

theorem Ends.bind {program : Program Command Response β}
    {continuation : β → Program Command Response α}
    (ends : program.Ends fun result =>
      ∃ value, result = some value ∧ (continuation value).Ends allowed) :
    (program >>= continuation).Ends allowed := by
  rw [bind_eq]
  induction program with
  | done value =>
      rcases ends with ⟨other, same, rest⟩
      cases same
      exact rest
  | perform command next induction =>
      exact fun response => induction response (ends response)
  | trap =>
      rcases ends with ⟨_, impossible, _⟩
      cases impossible

end Ends

def interpret {Inner : Type} {InnerResponse : Inner → Type}
    (handler : (command : Command) →
      Program Inner InnerResponse (Response command)) :
    Program Command Response α → Program Inner InnerResponse α
  | .done value => .done value
  | .perform command next =>
      (handler command).bind fun response => (next response).interpret handler
  | .trap => .trap

section Interpret

variable {Inner : Type} {InnerResponse : Inner → Type}
  (handler : (command : Command) →
    Program Inner InnerResponse (Response command))

@[simp] theorem interpret_pure (value : α) :
    (pure value : Program Command Response α).interpret handler =
      pure value := rfl

@[simp] theorem interpret_perform_bind (command : Command)
    (continuation : Response command → Program Command Response α) :
    (.perform command .done >>= continuation :
        Program Command Response α).interpret handler =
      handler command >>= fun response =>
        (continuation response).interpret handler := rfl

@[simp] theorem interpret_ite {condition : Prop} [Decidable condition]
    (first second : Program Command Response α) :
    (if condition then first else second).interpret handler =
      if condition then first.interpret handler
      else second.interpret handler := by
  by_cases holds : condition <;> simp [holds]

end Interpret

end Program

namespace Machine

/-- Run a program without interruption. A trapped program has no value. -/
def run (machine : Machine Command Response State) :
    Program Command Response α → State → Option α × State
  | .done value, state => (some value, state)
  | .perform command next, state =>
      machine.run (next (machine.execute state command).1)
        (machine.execute state command).2
  | .trap, state => (none, state)

def steps (machine : Machine Command Response State) :
    Program Command Response α → State → List (State × Command)
  | .done _, _ => []
  | .perform command next, state =>
      (state, command) ::
        machine.steps (next (machine.execute state command).1)
          (machine.execute state command).2
  | .trap, _ => []

def trace (machine : Machine Command Response State)
    (program : Program Command Response α) (state : State) : List Command :=
  (machine.steps program state).map Prod.snd

variable (machine : Machine Command Response State)

@[simp] theorem run_pure (value : α) (state : State) :
    machine.run (pure value : Program Command Response α) state =
      (some value, state) := rfl

@[simp] theorem run_trap (state : State) :
    machine.run (.trap : Program Command Response α) state = (none, state) := rfl

@[simp] theorem run_perform_done (command : Command) (state : State) :
    machine.run (.perform command .done) state =
      (some (machine.execute state command).1,
        (machine.execute state command).2) := rfl

theorem run_bind (program : Program Command Response α)
    (continuation : α → Program Command Response β) (state : State) :
    machine.run (program >>= continuation) state =
      match machine.run program state with
      | (some value, next) => machine.run (continuation value) next
      | (none, next) => (none, next) := by
  rw [Program.bind_eq]
  induction program generalizing state with
  | done value => rfl
  | perform command next induction => exact induction _ _
  | trap => rfl

@[simp] theorem run_map (program : Program Command Response α) (f : α → β)
    (state : State) :
    machine.run (f <$> program) state =
      ((machine.run program state).1.map f, (machine.run program state).2) := by
  rw [map_eq_pure_bind, run_bind]
  rcases machine.run program state with ⟨_ | value, next⟩ <;> rfl

theorem steps_bind (program : Program Command Response α)
    (continuation : α → Program Command Response β) (state : State) :
    machine.steps (program >>= continuation) state =
      machine.steps program state ++
        match machine.run program state with
        | (some value, next) => machine.steps (continuation value) next
        | (none, _) => [] := by
  rw [Program.bind_eq]
  induction program generalizing state with
  | done value => rfl
  | perform command next induction =>
      exact congrArg (List.cons (state, command)) (induction _ _)
  | trap => rfl

@[simp] theorem steps_pure (value : α) (state : State) :
    machine.steps (pure value : Program Command Response α) state = [] := rfl

@[simp] theorem steps_map (program : Program Command Response α) (f : α → β)
    (state : State) :
    machine.steps (f <$> program) state = machine.steps program state := by
  rw [map_eq_pure_bind, steps_bind]
  rcases machine.run program state with ⟨_ | value, next⟩ <;> simp

@[simp] theorem steps_trap (state : State) :
    machine.steps (.trap : Program Command Response α) state = [] := rfl

@[simp] theorem steps_perform_done (command : Command) (state : State) :
    machine.steps (.perform command .done) state = [(state, command)] := rfl

theorem run_ends {allowed : Option α → Prop}
    {program : Program Command Response α} (ends : program.Ends allowed)
    (state : State) : allowed (machine.run program state).1 := by
  induction program generalizing state with
  | done value => exact ends
  | perform command next induction => exact induction _ (ends _) _
  | trap => exact ends

theorem performs_steps {allowed : Command → Prop}
    {program : Program Command Response α} (performs : program.Performs allowed)
    (state : State) :
    ∀ step ∈ machine.steps program state, allowed step.2 := by
  induction program generalizing state with
  | done value =>
      intro step member
      cases member
  | perform command next induction =>
      intro step member
      rcases List.mem_cons.mp member with equal | later
      · rw [equal]
        exact performs.1
      · exact induction _ (performs.2 _) _ step later
  | trap =>
      intro step member
      cases member

theorem forall_steps_bind {safe : State × Command → Prop}
    {program : Program Command Response α}
    {continuation : α → Program Command Response β} {state : State}
    (first : ∀ step ∈ machine.steps program state, safe step)
    (second : ∀ value next, machine.run program state = (some value, next) →
      ∀ step ∈ machine.steps (continuation value) next, safe step) :
    ∀ step ∈ machine.steps (program >>= continuation) state, safe step := by
  intro step member
  rw [steps_bind] at member
  rcases List.mem_append.mp member with early | late
  · exact first step early
  · rcases run : machine.run program state with ⟨_ | value, next⟩
    · simp [run] at late
    · rw [run] at late
      exact second value next run step late

theorem trace_bind (program : Program Command Response α)
    (continuation : α → Program Command Response β) (state : State) :
    machine.trace (program >>= continuation) state =
      machine.trace program state ++
        match machine.run program state with
        | (some value, next) => machine.trace (continuation value) next
        | (none, _) => [] := by
  rw [trace, steps_bind, List.map_append]
  rcases machine.run program state with ⟨_ | value, next⟩ <;> rfl

theorem trace_bind_of_run {program : Program Command Response α}
    {continuation : α → Program Command Response β} {state next : State}
    {value : α} (run : machine.run program state = (some value, next)) :
    machine.trace (program >>= continuation) state =
      machine.trace program state ++ machine.trace (continuation value) next := by
  rw [trace_bind, run]

theorem run_preserves (property : State → Prop)
    (program : Program Command Response α) (state : State)
    (keeps : ∀ step ∈ machine.steps program state,
      property step.1 → property (machine.execute step.1 step.2).2)
    (initially : property state) :
    property (machine.run program state).2 := by
  induction program generalizing state with
  | done value => exact initially
  | perform command next induction =>
      apply induction
      · intro step member
        exact keeps step (List.mem_cons_of_mem _ member)
      · exact keeps (state, command) List.mem_cons_self initially
  | trap => exact initially

end Machine

end SerialFc
