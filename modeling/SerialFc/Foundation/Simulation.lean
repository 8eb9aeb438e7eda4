import SerialFc.Foundation.History

/-! # Simulation

One system stands for another if it can follow each of its steps, with the
same event. Every history of the second is then a history of the first.
-/

namespace SerialFc

variable {State Model Event : Type}

/-- From related states, each step of the system is a step of the model, to
related states. -/
structure Simulates (start : State → Prop)
    (step : State → Event → State → Prop) (modelStart : Model → Prop)
    (modelStep : Model → Event → Model → Prop)
    (relates : State → Model → Prop) : Prop where
  starts : ∀ state, start state → ∃ model, modelStart model ∧ relates state model
  steps : ∀ state model event next, relates state model → step state event next →
    ∃ after, modelStep model event after ∧ relates next after

variable {start : State → Prop} {step : State → Event → State → Prop}
  {modelStart : Model → Prop} {modelStep : Model → Event → Model → Prop}
  {relates : State → Model → Prop} {state : State} {history : List Event}

theorem Simulates.run
    (simulates : Simulates start step modelStart modelStep relates)
    (run : Run start step state history) :
    ∃ model, relates state model ∧ Run modelStart modelStep model history := by
  induction run with
  | start started =>
      rcases simulates.starts _ started with ⟨model, modelStarted, related⟩
      exact ⟨model, related, .start modelStarted⟩
  | step _ stepped induction =>
      rcases induction with ⟨model, related, modelRun⟩
      rcases simulates.steps _ _ _ _ related stepped with
        ⟨after, modelStepped, relatedAfter⟩
      exact ⟨after, relatedAfter, .step modelRun modelStepped⟩

end SerialFc
