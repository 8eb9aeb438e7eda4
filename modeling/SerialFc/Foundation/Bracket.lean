import Mathlib.Order.Lattice

/-! # Bracketing a target

A search over candidates keeps the best measure found on either side of a
target, each with the candidate it came from. The bounds it starts with have
no candidates: they only say how far off a measure may be.
-/

namespace SerialFc

structure Bracket (Value Candidate : Type) where
  low : Value
  hi : Value
  lowest : Candidate
  highest : Candidate

namespace Bracket

variable {Value Candidate : Type} [LinearOrder Value]
  (measure : Candidate → Value) (prefers : Candidate → Candidate → Bool)
  (target : Value)

def replace (bracket : Bracket Value Candidate) (candidate : Candidate) :
    Bracket Value Candidate :=
  if measure candidate = bracket.low then
    if prefers candidate bracket.lowest then
      { bracket with lowest := candidate }
    else bracket
  else if measure candidate = bracket.hi then
    if prefers candidate bracket.highest then
      { bracket with highest := candidate }
    else bracket
  else bracket

def tighten (bracket : Bracket Value Candidate) (candidate : Candidate) :
    Bracket Value Candidate :=
  if bracket.low < measure candidate ∧ measure candidate < bracket.hi then
    if target < measure candidate then
      { bracket with hi := measure candidate, highest := candidate }
    else { bracket with low := measure candidate, lowest := candidate }
  else bracket

def consider (bracket : Bracket Value Candidate) (candidate : Candidate) :
    Bracket Value Candidate :=
  (bracket.replace measure prefers candidate).tighten measure target candidate

/-- The bracket around the target after some candidates were seen: it lies in
the one it started from, a bound that moved is the measure of a candidate, and
none of those seen lies strictly inside. -/
structure Encloses (start : Bracket Value Candidate) (seen : Candidate → Prop)
    (bracket : Bracket Value Candidate) : Prop where
  startLow : start.low ≤ bracket.low
  low : bracket.low ≤ target
  hi : target < bracket.hi
  startHi : bracket.hi ≤ start.hi
  lowest : start.low < bracket.low →
    seen bracket.lowest ∧ measure bracket.lowest = bracket.low
  highest : bracket.hi < start.hi →
    seen bracket.highest ∧ measure bracket.highest = bracket.hi
  outside : ∀ candidate, seen candidate →
    measure candidate ≤ bracket.low ∨ bracket.hi ≤ measure candidate

section Replace

variable (bracket : Bracket Value Candidate) (candidate : Candidate)

theorem replace_low :
    (bracket.replace measure prefers candidate).low = bracket.low := by
  unfold replace
  split_ifs <;> rfl

theorem replace_hi :
    (bracket.replace measure prefers candidate).hi = bracket.hi := by
  unfold replace
  split_ifs <;> rfl

theorem replace_lowest :
    (bracket.replace measure prefers candidate).lowest = bracket.lowest ∨
      (bracket.replace measure prefers candidate).lowest = candidate ∧
        measure candidate = bracket.low := by
  unfold replace
  split_ifs with atLow
  · exact .inr ⟨rfl, atLow⟩
  all_goals exact .inl rfl

theorem replace_highest :
    (bracket.replace measure prefers candidate).highest = bracket.highest ∨
      (bracket.replace measure prefers candidate).highest = candidate ∧
        measure candidate = bracket.hi := by
  unfold replace
  split_ifs with atLow _ atHi
  · exact .inl rfl
  · exact .inl rfl
  · exact .inr ⟨rfl, atHi⟩
  all_goals exact .inl rfl

end Replace

variable {target} {start bracket : Bracket Value Candidate}
  {seen : Candidate → Prop}

theorem encloses_start (low : start.low ≤ target) (hi : target < start.hi) :
    Encloses measure target start (fun _ => False) start where
  startLow := le_refl _
  low := low
  hi := hi
  startHi := le_refl _
  lowest moved := absurd moved (lt_irrefl _)
  highest moved := absurd moved (lt_irrefl _)
  outside _ isSeen := absurd isSeen not_false

variable {measure}

theorem Encloses.replace_found
    (encloses : Encloses measure target start seen bracket)
    (candidate : Candidate) :
    let replaced := bracket.replace measure prefers candidate
    (start.low < bracket.low →
        (seen replaced.lowest ∨ replaced.lowest = candidate) ∧
          measure replaced.lowest = bracket.low) ∧
      (bracket.hi < start.hi →
        (seen replaced.highest ∨ replaced.highest = candidate) ∧
          measure replaced.highest = bracket.hi) := by
  intro replaced
  refine ⟨?_, ?_⟩
  · intro moved
    rcases replace_lowest measure prefers bracket candidate with
      same | ⟨isNew, measured⟩
    · rw [same]
      exact ⟨.inl (encloses.lowest moved).1, (encloses.lowest moved).2⟩
    · rw [isNew]
      exact ⟨.inr rfl, measured⟩
  · intro moved
    rcases replace_highest measure prefers bracket candidate with
      same | ⟨isNew, measured⟩
    · rw [same]
      exact ⟨.inl (encloses.highest moved).1, (encloses.highest moved).2⟩
    · rw [isNew]
      exact ⟨.inr rfl, measured⟩

theorem Encloses.consider (encloses : Encloses measure target start seen bracket)
    (candidate : Candidate) :
    Encloses measure target start (fun other => seen other ∨ other = candidate)
      (bracket.consider measure prefers target candidate) := by
  have found := encloses.replace_found prefers candidate
  have low := replace_low measure prefers bracket candidate
  have hi := replace_hi measure prefers bracket candidate
  unfold Bracket.consider
  generalize bracket.replace measure prefers candidate = replaced
    at found low hi ⊢
  unfold tighten
  split
  case isTrue inside =>
    rw [low, hi] at inside
    split
    case isTrue above =>
      refine ⟨?_, ?_, above, ?_, ?_, fun _ => ⟨.inr rfl, rfl⟩, ?_⟩
      · exact low ▸ encloses.startLow
      · exact low ▸ encloses.low
      · exact inside.2.le.trans encloses.startHi
      · intro moved
        rw [low] at moved
        rw [low]
        exact found.1 moved
      · intro other isSeen
        rcases isSeen with earlier | rfl
        · rcases encloses.outside other earlier with below | beyond
          · exact .inl (low ▸ below)
          · exact .inr (inside.2.le.trans beyond)
        · exact .inr (le_refl _)
    case isFalse notAbove =>
      refine ⟨?_, not_lt.mp notAbove, ?_, ?_, fun _ => ⟨.inr rfl, rfl⟩, ?_, ?_⟩
      · exact encloses.startLow.trans inside.1.le
      · exact hi ▸ encloses.hi
      · exact hi ▸ encloses.startHi
      · intro moved
        rw [hi] at moved
        rw [hi]
        exact found.2 moved
      · intro other isSeen
        rcases isSeen with earlier | rfl
        · rcases encloses.outside other earlier with below | beyond
          · exact .inl (below.trans inside.1.le)
          · exact .inr (hi ▸ beyond)
        · exact .inl (le_refl _)
  case isFalse notInside =>
    rw [low, hi] at notInside
    refine ⟨low ▸ encloses.startLow, low ▸ encloses.low, hi ▸ encloses.hi,
      hi ▸ encloses.startHi, ?_, ?_, ?_⟩
    · intro moved
      rw [low] at moved
      rw [low]
      exact found.1 moved
    · intro moved
      rw [hi] at moved
      rw [hi]
      exact found.2 moved
    · intro other isSeen
      rw [low, hi]
      rcases isSeen with earlier | rfl
      · exact encloses.outside other earlier
      · rcases not_and_or.mp notInside with below | beyond
        · exact .inl (not_lt.mp below)
        · exact .inr (not_lt.mp beyond)

theorem Encloses.foldl (encloses : Encloses measure target start seen bracket)
    (candidates : List Candidate) :
    Encloses measure target start
      (fun other => seen other ∨ other ∈ candidates)
      (candidates.foldl (Bracket.consider measure prefers target) bracket) := by
  induction candidates generalizing bracket seen with
  | nil => simpa using encloses
  | cons candidate later induction =>
      have considered := induction (encloses.consider prefers candidate)
      simpa only [List.foldl_cons, List.mem_cons, or_assoc] using considered

/-! ## Which of the candidates with one measure is kept -/

/-- A strict preference, as far as the search relies on it. -/
structure Preference (prefers : Candidate → Candidate → Bool) : Prop where
  irrefl : ∀ candidate, prefers candidate candidate = false
  trans : ∀ first second third, prefers first second = true →
    prefers second third = true → prefers first third = true

theorem Preference.not_prefers_of_prefers {prefers : Candidate → Candidate → Bool}
    (preference : Preference prefers) {other new old : Candidate}
    (better : prefers new old = true) (notBetter : prefers other old = false) :
    prefers other new = false := by
  rw [Bool.eq_false_iff] at notBetter ⊢
  exact fun preferred => notBetter (preference.trans _ _ _ preferred better)

variable (measure)

/-- The candidate of a bound is one that measures it, with no other preferred
to it. While the bound is the one started from, a candidate had to be preferred
to the one that stood in for it. -/
structure Held (startBound : Value) (startCandidate : Candidate)
    (seen : Candidate → Prop) (bound : Value) (candidate : Candidate) :
    Prop where
  found : candidate = startCandidate ∨
    seen candidate ∧ measure candidate = bound ∧
      (bound = startBound → prefers candidate startCandidate = true)
  ties : ∀ other, seen other → measure other = bound →
    prefers other candidate = false

variable {measure} {prefers}

namespace Held

variable {startBound bound : Value} {startCandidate held : Candidate}

omit [LinearOrder Value] in
theorem skip (holds : Held measure prefers startBound startCandidate seen bound held)
    {candidate : Candidate} (apart : measure candidate ≠ bound) :
    Held measure prefers startBound startCandidate
      (fun other => seen other ∨ other = candidate) bound held where
  found := holds.found.imp_right fun found => ⟨.inl found.1, found.2⟩
  ties other isSeen measured := by
    rcases isSeen with earlier | rfl
    · exact holds.ties other earlier measured
    · exact absurd measured apart

omit [LinearOrder Value] in
theorem refuse
    (holds : Held measure prefers startBound startCandidate seen bound held)
    {candidate : Candidate} (notBetter : prefers candidate held = false) :
    Held measure prefers startBound startCandidate
      (fun other => seen other ∨ other = candidate) bound held where
  found := holds.found.imp_right fun found => ⟨.inl found.1, found.2⟩
  ties other isSeen measured := by
    rcases isSeen with earlier | rfl
    · exact holds.ties other earlier measured
    · exact notBetter

omit [LinearOrder Value] in
theorem take (preference : Preference prefers)
    (holds : Held measure prefers startBound startCandidate seen bound held)
    {candidate : Candidate} (measured : measure candidate = bound)
    (better : prefers candidate held = true) :
    Held measure prefers startBound startCandidate
      (fun other => seen other ∨ other = candidate) bound candidate where
  found := by
    refine .inr ⟨.inr rfl, measured, ?_⟩
    intro atStart
    rcases holds.found with rfl | ⟨_, _, preferred⟩
    · exact better
    · exact preference.trans _ _ _ better (preferred atStart)
  ties other isSeen equal := by
    rcases isSeen with earlier | rfl
    · exact preference.not_prefers_of_prefers better
        (holds.ties other earlier equal)
    · exact preference.irrefl other

omit [LinearOrder Value] in
theorem move (preference : Preference prefers) {candidate : Candidate}
    (moved : measure candidate ≠ startBound)
    (isNew : ∀ other, seen other → measure other ≠ measure candidate) :
    Held measure prefers startBound startCandidate
      (fun other => seen other ∨ other = candidate) (measure candidate)
      candidate where
  found := .inr ⟨.inr rfl, rfl, fun atStart => absurd atStart moved⟩
  ties other isSeen measured := by
    rcases isSeen with earlier | rfl
    · exact absurd measured (isNew other earlier)
    · exact preference.irrefl other

end Held

variable (measure) (prefers)

structure Settles (start : Bracket Value Candidate) (seen : Candidate → Prop)
    (bracket : Bracket Value Candidate) : Prop where
  low : Held measure prefers start.low start.lowest seen bracket.low
    bracket.lowest
  hi : Held measure prefers start.hi start.highest seen bracket.hi
    bracket.highest

omit [LinearOrder Value] in
theorem settles_start (start : Bracket Value Candidate) :
    Settles measure prefers start (fun _ => False) start where
  low := ⟨.inl rfl, fun _ isSeen => absurd isSeen not_false⟩
  hi := ⟨.inl rfl, fun _ isSeen => absurd isSeen not_false⟩

variable {measure} {prefers}

/-- A bound is not inside its bracket, whichever candidates hold the bounds. -/
theorem tighten_of_at_bound {candidate : Candidate}
    (atBound : measure candidate = bracket.low ∨ measure candidate = bracket.hi)
    (lowest highest : Candidate) :
    tighten measure target ⟨bracket.low, bracket.hi, lowest, highest⟩ candidate =
      ⟨bracket.low, bracket.hi, lowest, highest⟩ := by
  apply if_neg
  rintro ⟨above, below⟩
  rcases atBound with atLow | atHi
  · exact absurd atLow above.ne'
  · exact absurd atHi below.ne

theorem Encloses.isNew (encloses : Encloses measure target start seen bracket)
    {candidate : Candidate} (inside : bracket.low < measure candidate ∧
      measure candidate < bracket.hi) (other : Candidate) (isSeen : seen other) :
    measure other ≠ measure candidate := by
  intro equal
  rcases encloses.outside other isSeen with below | beyond
  · exact not_lt.mpr below (equal ▸ inside.1)
  · exact not_lt.mpr beyond (equal ▸ inside.2)

theorem Settles.consider (preference : Preference prefers)
    (encloses : Encloses measure target start seen bracket)
    (settles : Settles measure prefers start seen bracket)
    (candidate : Candidate) :
    Settles measure prefers start (fun other => seen other ∨ other = candidate)
      (bracket.consider measure prefers target candidate) := by
  have apart := encloses.low.trans_lt encloses.hi
  unfold Bracket.consider replace
  split_ifs with atLow better atHi better
  · rw [tighten_of_at_bound (.inl atLow)]
    exact ⟨settles.low.take preference atLow better,
      settles.hi.skip (atLow ▸ apart.ne)⟩
  · rw [tighten_of_at_bound (.inl atLow)]
    exact ⟨settles.low.refuse (Bool.eq_false_iff.mpr better),
      settles.hi.skip (atLow ▸ apart.ne)⟩
  · rw [tighten_of_at_bound (.inr atHi)]
    exact ⟨settles.low.skip atLow, settles.hi.take preference atHi better⟩
  · rw [tighten_of_at_bound (.inr atHi)]
    exact ⟨settles.low.skip atLow,
      settles.hi.refuse (Bool.eq_false_iff.mpr better)⟩
  · unfold tighten
    split_ifs with inside above
    · exact ⟨settles.low.skip atLow,
        Held.move preference (inside.2.trans_le encloses.startHi).ne
          (encloses.isNew inside)⟩
    · exact ⟨Held.move preference (encloses.startLow.trans_lt inside.1).ne'
          (encloses.isNew inside),
        settles.hi.skip atHi⟩
    · exact ⟨settles.low.skip atLow, settles.hi.skip atHi⟩

theorem Settles.foldl (preference : Preference prefers)
    (encloses : Encloses measure target start seen bracket)
    (settles : Settles measure prefers start seen bracket)
    (candidates : List Candidate) :
    Settles measure prefers start (fun other => seen other ∨ other ∈ candidates)
      (candidates.foldl (Bracket.consider measure prefers target) bracket) := by
  induction candidates generalizing bracket seen with
  | nil => simpa using settles
  | cons candidate later induction =>
      have considered := induction (encloses.consider prefers candidate)
        (settles.consider preference encloses candidate)
      simpa only [List.foldl_cons, List.mem_cons, or_assoc] using considered

theorem foldl_consider_eq_self {candidates : List Candidate}
    (beyond : ∀ candidate ∈ candidates,
      bracket.low < measure candidate ∧ bracket.hi < measure candidate) :
    candidates.foldl (Bracket.consider measure prefers target) bracket =
      bracket := by
  induction candidates with
  | nil => rfl
  | cons candidate later induction =>
      have above := beyond candidate List.mem_cons_self
      have kept : bracket.consider measure prefers target candidate =
          bracket := by
        rw [Bracket.consider, replace, if_neg above.1.ne', if_neg above.2.ne',
          tighten, if_neg fun inside => not_lt.mpr above.2.le inside.2]
      rw [List.foldl_cons, kept]
      exact induction fun other member =>
        beyond other (List.mem_cons_of_mem _ member)

end Bracket

end SerialFc
