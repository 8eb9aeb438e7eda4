import Mathlib.Data.Option.Basic

/-! # Runs and last writes

A run is a start state followed by steps, each leaving an event. When some
events write a value under a key, the last value written is what an observer
of the history expects to find. `Run.tracks` is the one induction behind all
statements of that kind.
-/

namespace SerialFc

variable {State Event Key Value : Type}

/-- The states a system can be in, with the events so far, newest first. -/
inductive Run (start : State → Prop) (step : State → Event → State → Prop) :
    State → List Event → Prop
  | start {state : State} : start state → Run start step state []
  | step {state next : State} {event : Event} {history : List Event} :
      Run start step state history → step state event next →
      Run start step next (event :: history)

def lastWrite [DecidableEq Key] (writes : Event → Option (Key × Value)) :
    List Event → Key → Option Value
  | [], _ => none
  | event :: earlier, key =>
      match writes event with
      | some (written, value) =>
          if written = key then some value else lastWrite writes earlier key
      | none => lastWrite writes earlier key

section LastWrite

variable [DecidableEq Key] {writes : Event → Option (Key × Value)}

@[simp] theorem lastWrite_nil (key : Key) :
    lastWrite writes [] key = none := rfl

theorem lastWrite_cons_of_writes {event : Event} {key : Key} {value : Value}
    (written : writes event = some (key, value)) (history : List Event) :
    lastWrite writes (event :: history) key = some value := by
  simp [lastWrite, written]

theorem lastWrite_cons_of_not_writes {event : Event} {key : Key}
    (kept : ∀ value, writes event ≠ some (key, value)) (history : List Event) :
    lastWrite writes (event :: history) key = lastWrite writes history key := by
  cases written : writes event with
  | none => simp [lastWrite, written]
  | some write =>
      rcases write with ⟨other, value⟩
      have different : other ≠ key := fun equal =>
        kept value (by rw [written, equal])
      simp [lastWrite, written, different]

theorem lastWrite_satisfies (holds : Key → Value → Prop)
    (satisfies : ∀ event key value,
      writes event = some (key, value) → holds key value)
    {history : List Event} {key : Key} {value : Value}
    (isLast : lastWrite writes history key = some value) : holds key value := by
  induction history with
  | nil => cases isLast
  | cons event earlier induction =>
      by_cases kept : ∀ value, writes event ≠ some (key, value)
      · rw [lastWrite_cons_of_not_writes kept] at isLast
        exact induction isLast
      · rcases not_forall_not.mp kept with ⟨other, written⟩
        rw [lastWrite_cons_of_writes written] at isLast
        obtain rfl : other = value := Option.some.inj isLast
        exact satisfies event key other written

theorem lastWrite_congr {others : Event → Option (Key × Value)}
    {history : List Event}
    (same : ∀ event ∈ history, writes event = others event) (key : Key) :
    lastWrite writes history key = lastWrite others history key := by
  induction history with
  | nil => rfl
  | cons event earlier induction =>
      have rest := induction fun event member => same event (.tail _ member)
      rw [lastWrite, lastWrite, same event (.head _), rest]

end LastWrite

/-- The value last written under a key, or the value it started with. -/
def recorded [DecidableEq Key] (writes : Event → Option (Key × Value))
    (initial : Key → Option Value) (history : List Event) (key : Key) :
    Option Value :=
  (lastWrite writes history key).or (initial key)

namespace Run

variable {start : State → Prop} {step : State → Event → State → Prop}
  {state : State} {history : List Event}

theorem invariant {holds : State → Prop}
    (run : Run start step state history)
    (initially : ∀ state, start state → holds state)
    (preserved : ∀ state event next,
      holds state → step state event next → holds next) :
    holds state := by
  induction run with
  | start started => exact initially _ started
  | step _ stepped induction => exact preserved _ _ _ induction stepped

theorem forall_events {holds : Event → Prop} (run : Run start step state history)
    (each : ∀ state event next, step state event next → holds event) :
    ∀ event ∈ history, holds event := by
  induction run with
  | start => exact fun _ absent => by cases absent
  | step _ stepped induction =>
      intro event member
      rcases List.mem_cons.mp member with rfl | earlier
      · exact each _ _ _ stepped
      · exact induction event earlier

/-- If every write makes its value hold and everything else keeps the values
that hold, then what holds along a run is what the history recorded. -/
theorem tracks [DecidableEq Key] {writes : Event → Option (Key × Value)}
    {initial : Key → Option Value} (valid : State → Prop)
    (holds : State → Key → Value → Prop)
    (run : Run start step state history)
    (startValid : ∀ state, start state → valid state)
    (startHolds : ∀ state key value, start state →
      initial key = some value → holds state key value)
    (stepValid : ∀ state event next,
      valid state → step state event next → valid next)
    (stepWrites : ∀ state event next key value, valid state →
      step state event next → writes event = some (key, value) →
      holds next key value)
    (stepKeeps : ∀ state event next key value, valid state →
      step state event next → (∀ other, writes event ≠ some (key, other)) →
      holds state key value → holds next key value)
    {key : Key} {value : Value}
    (isRecorded : recorded writes initial history key = some value) :
    holds state key value := by
  induction run generalizing value with
  | start started =>
      exact startHolds _ _ _ started (by simpa [recorded] using isRecorded)
  | @step state next event history before stepped induction =>
      have validBefore : valid state :=
        before.invariant startValid stepValid
      cases written : writes event with
      | some write =>
          rcases write with ⟨other, otherValue⟩
          by_cases same : other = key
          · subst same
            rw [recorded, lastWrite_cons_of_writes written] at isRecorded
            have sameValue : otherValue = value := by simpa using isRecorded
            subst sameValue
            exact stepWrites _ _ _ _ _ validBefore stepped written
          · have kept : ∀ value, writes event ≠ some (key, value) := by
              intro value equal
              rw [written] at equal
              exact same (Prod.mk.inj (Option.some.inj equal)).1
            rw [recorded, lastWrite_cons_of_not_writes kept] at isRecorded
            exact stepKeeps _ _ _ _ _ validBefore stepped kept
              (induction isRecorded)
      | none =>
          have kept : ∀ value, writes event ≠ some (key, value) := by
            intro value equal
            rw [written] at equal
            cases equal
          rw [recorded, lastWrite_cons_of_not_writes kept] at isRecorded
          exact stepKeeps _ _ _ _ _ validBefore stepped kept
            (induction isRecorded)

end Run

end SerialFc
