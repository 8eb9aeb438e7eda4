import SerialFc.Foundation.History

/-! # Leaving events out of a history

An observer sees some events of a system and not the others. If the others make
no difference to what it sees, a run may be purged of them.
-/

namespace SerialFc

variable {State Event Input : Type}

/-- Alike states make the same shown steps, to alike states, and a step that is
not shown leads to a state alike. -/
structure Hides (step : State → Event → State → Prop) (shown : Event → Prop)
    (alike : State → State → Prop) : Prop where
  hidden : ∀ {state other event next}, alike state other → ¬shown event →
    step state event next → alike next other
  follows : ∀ {state other event next}, alike state other → shown event →
    step state event next → ∃ after, step other event after ∧ alike next after

def Functional (step : State → Event → State → Prop) (asks : Event → Input) : Prop :=
  ∀ state first second firstNext secondNext, asks first = asks second →
    step state first firstNext → step state second secondNext →
      first = second ∧ firstNext = secondNext

section Purge

variable {start : State → Prop} {step : State → Event → State → Prop}
  {shown : Event → Prop} [DecidablePred shown] {alike : State → State → Prop}
  {asks : Event → Input} {state : State} {history : List Event}

theorem Hides.purge (hides : Hides step shown alike)
    (same : ∀ state, start state → alike state state)
    (run : Run start step state history) :
    ∃ other, alike state other ∧ Run start step other (history.filter shown) := by
  induction run with
  | start started => exact ⟨_, same _ started, .start started⟩
  | @step state next event history _ stepped induction =>
      rcases induction with ⟨other, related, purged⟩
      by_cases isShown : shown event
      · rcases hides.follows related isShown stepped with
          ⟨after, followed, relatedNext⟩
        rw [List.filter_cons_of_pos (by simpa using isShown)]
        exact ⟨after, relatedNext, .step purged followed⟩
      · rw [List.filter_cons_of_neg (by simpa using isShown)]
        exact ⟨other, hides.hidden related isShown stepped, purged⟩

theorem Run.eq_of_asks (functional : Functional step asks) {first left right : State}
    {leftHistory rightHistory : List Event}
    (leftRun : Run (· = first) step left leftHistory)
    (rightRun : Run (· = first) step right rightHistory)
    (asked : leftHistory.map asks = rightHistory.map asks) :
    left = right ∧ leftHistory = rightHistory := by
  induction leftRun generalizing right rightHistory with
  | start started =>
      cases rightRun with
      | start alsoStarted => exact ⟨started.trans alsoStarted.symm, rfl⟩
      | step => cases asked
  | step _ stepped induction =>
      cases rightRun with
      | start => cases asked
      | step earlier alsoStepped =>
          rcases List.cons.inj asked with ⟨sameAsked, rest⟩
          rcases induction earlier rest with ⟨rfl, rfl⟩
          rcases functional _ _ _ _ _ sameAsked stepped alsoStepped with ⟨rfl, rfl⟩
          exact ⟨rfl, rfl⟩

/-- Two runs from one state in which the same is asked to be shown show the same,
and end alike to one state. -/
theorem Hides.shows_same (hides : Hides step shown alike)
    (functional : Functional step asks) {first left right : State}
    (same : alike first first) {leftHistory rightHistory : List Event}
    (leftRun : Run (· = first) step left leftHistory)
    (rightRun : Run (· = first) step right rightHistory)
    (asked : (leftHistory.filter shown).map asks =
      (rightHistory.filter shown).map asks) :
    leftHistory.filter shown = rightHistory.filter shown ∧
      ∃ other, alike left other ∧ alike right other := by
  have started : ∀ state, state = first → alike state state := by
    rintro state rfl
    exact same
  rcases hides.purge started leftRun with ⟨leftOther, leftAlike, leftPurged⟩
  rcases hides.purge started rightRun with ⟨rightOther, rightAlike, rightPurged⟩
  rcases Run.eq_of_asks functional leftPurged rightPurged asked with ⟨rfl, shows⟩
  exact ⟨shows, _, leftAlike, rightAlike⟩

end Purge

end SerialFc
