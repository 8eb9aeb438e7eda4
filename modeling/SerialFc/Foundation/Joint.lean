import SerialFc.Foundation.Program

/-! # Programs over two components

A program may use two components, each with commands and a state of its own. What it
does with one of them leaves the other alone, so it falls into a part for each.
-/

namespace SerialFc

variable {First Second : Type} {FirstResponse : First → Type}
  {SecondResponse : Second → Type} {State Other α β : Type}

@[reducible] def JointResponse (FirstResponse : First → Type)
    (SecondResponse : Second → Type) : First ⊕ Second → Type
  | .inl command => FirstResponse command
  | .inr command => SecondResponse command

abbrev Joint (FirstResponse : First → Type) (SecondResponse : Second → Type) :=
  Program (First ⊕ Second) (JointResponse FirstResponse SecondResponse)

namespace Program

def onFirst (program : Program First FirstResponse α) :
    Joint FirstResponse SecondResponse α :=
  program.interpret fun command => .perform (.inl command) .done

def onSecond (program : Program Second SecondResponse α) :
    Joint FirstResponse SecondResponse α :=
  program.interpret fun command => .perform (.inr command) .done

end Program

namespace Machine

def joint (first : Machine First FirstResponse State)
    (second : Machine Second SecondResponse Other) :
    Machine (First ⊕ Second) (JointResponse FirstResponse SecondResponse)
      (State × Other) where
  execute
    | (state, other), .inl command =>
        ((first.execute state command).1, ((first.execute state command).2, other))
    | (state, other), .inr command =>
        ((second.execute other command).1, (state, (second.execute other command).2))

variable {first : Machine First FirstResponse State}
  {second : Machine Second SecondResponse Other}

theorem run_onFirst (program : Program First FirstResponse α) (state : State)
    (other : Other) :
    (first.joint second).run program.onFirst (state, other) =
      ((first.run program state).1, ((first.run program state).2, other)) := by
  induction program generalizing state with
  | done value => rfl
  | perform command next induction => exact induction _ _
  | trap => rfl

theorem run_onSecond (program : Program Second SecondResponse α) (state : State)
    (other : Other) :
    (first.joint second).run program.onSecond (state, other) =
      ((second.run program other).1, (state, (second.run program other).2)) := by
  induction program generalizing other with
  | done value => rfl
  | perform command next induction => exact induction _ _
  | trap => rfl

theorem steps_onFirst {allowed : First → Prop} {program : Program First FirstResponse α}
    (performs : program.Performs allowed) {start : State × Other} :
    ∀ step ∈ (first.joint second).steps program.onFirst start,
      ∃ command, step.2 = .inl command ∧ allowed command := by
  induction program generalizing start with
  | done value => exact fun _ absent => by cases absent
  | perform command next induction =>
      intro step member
      rcases List.mem_cons.mp member with rfl | later
      · exact ⟨command, rfl, performs.1⟩
      · exact induction _ (performs.2 _) step later
  | trap => exact fun _ absent => by cases absent

theorem steps_onSecond {program : Program Second SecondResponse α}
    {start : State × Other} :
    ∀ step ∈ (first.joint second).steps program.onSecond start,
      ∃ command, step.2 = .inr command := by
  induction program generalizing start with
  | done value => exact fun _ absent => by cases absent
  | perform command next induction =>
      intro step member
      rcases List.mem_cons.mp member with rfl | later
      · exact ⟨command, rfl⟩
      · exact induction _ step later
  | trap => exact fun _ absent => by cases absent

end Machine

/-! ## Parts -/

/-- Run on both components, the program comes to what its part for the first comes
to, and leaves the second where its part for that runs to its end. -/
structure Splits (first : Machine First FirstResponse State)
    (second : Machine Second SecondResponse Other)
    (whole : Joint FirstResponse SecondResponse α) (part : Program First FirstResponse α)
    (rest : Program Second SecondResponse Unit) (start : State × Other)
    (result : Option α) (last : State × Other) : Prop where
  whole : (first.joint second).run whole start = (result, last)
  part : first.run part start.1 = (result, last.1)
  rest : second.run rest start.2 = (some (), last.2)

namespace Splits

variable {first : Machine First FirstResponse State}
  {second : Machine Second SecondResponse Other}
  {whole : Joint FirstResponse SecondResponse α} {part : Program First FirstResponse α}
  {rest later : Program Second SecondResponse Unit} {start middle last : State × Other}
  {continuation : α → Joint FirstResponse SecondResponse β}
  {partContinuation : α → Program First FirstResponse β}

theorem pure (value : α) :
    Splits first second (Pure.pure value) (Pure.pure value) (Pure.pure ()) start
      (some value) start :=
  ⟨rfl, rfl, rfl⟩

theorem onFirst {result : Option α} {state after : State}
    (run : first.run part state = (result, after)) (other : Other) :
    Splits first second part.onFirst part (Pure.pure ()) (state, other) result
      (after, other) := by
  constructor
  · rw [Machine.run_onFirst, run]
  · exact run
  · rfl

theorem bind_of_eq {value : α} {result : Option β}
    {wholeLater : Joint FirstResponse SecondResponse β}
    {partLater : Program First FirstResponse β}
    (early : Splits first second whole part rest start (some value) middle)
    (continues : continuation value = wholeLater)
    (partContinues : partContinuation value = partLater)
    (late : Splits first second wholeLater partLater later middle result last) :
    Splits first second (whole >>= continuation) (part >>= partContinuation)
      (rest >>= fun _ => later) start result last := by
  subst continues partContinues
  constructor
  · simp only [Machine.run_bind, early.whole, late.whole]
  · simp only [Machine.run_bind, early.part, late.part]
  · simp only [Machine.run_bind, early.rest, late.rest]

theorem bind {value : α} {result : Option β}
    (early : Splits first second whole part rest start (some value) middle)
    (late : Splits first second (continuation value) (partContinuation value) later
      middle result last) :
    Splits first second (whole >>= continuation) (part >>= partContinuation)
      (rest >>= fun _ => later) start result last :=
  early.bind_of_eq rfl rfl late

theorem bind_pure {value : α} {result : β}
    (early : Splits first second whole part rest start (some value) last)
    (ends : continuation value = Pure.pure result)
    (partEnds : partContinuation value = Pure.pure result) :
    Splits first second (whole >>= continuation) (part >>= partContinuation) rest start
      (some result) last := by
  constructor
  · simp only [Machine.run_bind, early.whole, ends, Machine.run_pure]
  · simp only [Machine.run_bind, early.part, partEnds, Machine.run_pure]
  · exact early.rest

theorem bind_trap (early : Splits first second whole part rest start none middle) :
    Splits first second (whole >>= continuation) (part >>= partContinuation) rest start
      none middle := by
  constructor
  · rw [Machine.run_bind, early.whole]
  · rw [Machine.run_bind, early.part]
  · exact early.rest

end Splits

end SerialFc
