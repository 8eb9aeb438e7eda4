import SerialFc.Foundation.LoopSearch
import SerialFc.Lib.Ics30703.FoundDividers
import SerialFc.Lib.Ics30703.Unpacking

/-! # The first of all settings

The search goes through tolerances, dividers and loop filters in five nested
loops and a sixth around them, one of which starts late. It returns what a
search of all settings in the same order would.
-/

namespace SerialFc.Ics30703

/-- The variables of the six loops: tolerance in whole ppm, `r`, `od`, `v`,
`Rs` and `icpnum`. -/
abbrev Candidate := Nat × Nat × Nat × Nat × Nat × Nat

/-- The loops take output dividers and resistors from the largest down, and the
others from the smallest up. -/
def FilterBefore : Nat × Nat → Nat × Nat → Prop :=
  Prod.Lex (· > ·) (· < ·)

def Before : Candidate → Candidate → Prop :=
  Prod.Lex (· < ·) (Prod.Lex (· < ·) (Prod.Lex (· > ·)
    (Prod.Lex (· < ·) FilterBefore)))

/-- A setting of the ranges with a suitable loop filter that is within the
tolerance, which is within the one asked for. -/
def Accepts (desired requestedPpm : Nat) : Candidate → Prop
  | (ppm, r, od, v, rs, icpnum) =>
      ppm ≤ requestedPpm ∧ (Dividers.mk r od v).Admissible ∧
        (Dividers.mk r od v).error desired ≤ tolerance desired ppm ∧
        rs ∈ loopResistors ∧ icpnum ∈ chargePumpCurrents ∧
        ¬(IcpRsStruct.of r v rs icpnum).Rejected

def results (desired : Nat) : Candidate → ResultStruct × IcpRsStruct
  | (_, r, od, v, rs, icpnum) => (.of desired r od v, .of r v rs icpnum)

/-! ## The loops -/

theorem loopResistors_sorted : loopResistors.Pairwise (· > ·) := by
  decide

theorem chargePumpCurrents_sorted : chargePumpCurrents.Pairwise (· < ·) := by
  decide

theorem le_of_mem_outDividersFrom {first od : Nat}
    (member : od ∈ outDividersFrom first) : od ≤ first := by
  induction first using outDividersFrom.induct with
  | case1 first large induction =>
      rw [outDividersFrom, if_pos large] at member
      rcases List.mem_cons.mp member with same | later
      · exact same.le
      · exact (induction later).trans (odStep_lt large).le
  | case2 first small =>
      rw [outDividersFrom, if_neg small] at member
      cases member

theorem outDividersFrom_sorted (first : Nat) :
    (outDividersFrom first).Pairwise (· > ·) := by
  induction first using outDividersFrom.induct with
  | case1 first large induction =>
      rw [outDividersFrom, if_pos large]
      apply List.Pairwise.cons _ induction
      intro od later
      exact Nat.lt_of_le_of_lt (le_of_mem_outDividersFrom later) (odStep_lt large)
  | case2 first small =>
      rw [outDividersFrom, if_neg small]
      exact List.Pairwise.nil

theorem outDividers_sorted : outDividers.Pairwise (· > ·) :=
  outDividersFrom_sorted 8232

theorem loopFilter_finds (r v : Nat) :
    Finds (loopFilter r v) FilterBefore
      (fun (choice : Nat × Nat) => choice.1 ∈ loopResistors ∧
        choice.2 ∈ chargePumpCurrents ∧
        ¬(IcpRsStruct.of r v choice.1 choice.2).Rejected)
      (fun choice => IcpRsStruct.of r v choice.1 choice.2) := by
  apply Finds.loop loopResistors_sorted (fun choice accepted => accepted.1)
  intro rs isResistor
  apply Finds.congr (Finds.innermost chargePumpCurrents_sorted
    (fun icpnum => (IcpRsStruct.of r v rs icpnum).Rejected) _)
  intro icpnum
  exact and_iff_right isResistor

section Loops

variable {desired requestedPpm ppm r od v : Nat} (withinPpm : ppm ≤ requestedPpm)
include withinPpm

theorem tryVco_finds (isR : 1 ≤ r ∧ r ≤ 1200) (isOd : od ∈ outDividers)
    (isV : 12 ≤ v ∧ v ≤ 2055) :
    Finds (tryVco desired (tolerance desired ppm) r od v) FilterBefore
      (fun choice => Accepts desired requestedPpm (ppm, r, od, v, choice))
      (fun choice => results desired (ppm, r, od, v, choice)) := by
  apply Finds.congr (Finds.guard fun _ => Finds.guard fun _ =>
    (loopFilter_finds r v).map fun filter =>
      (ResultStruct.of desired r od v, filter))
  intro choice
  rw [not_or, not_lt, gt_iff_lt, not_lt, gt_iff_lt, not_lt]
  constructor
  · intro accepted
    exact ⟨accepted.2.1.vco, accepted.2.2.1, accepted.2.2.2⟩
  · intro passed
    exact ⟨withinPpm, ⟨isR, isOd, isV, passed.1⟩, passed.2.1, passed.2.2⟩

/-- The start of the loop over `v` leaves out nothing that is accepted. -/
theorem loopV_finds (millionth : requestedPpm ≤ 1000000) (isR : 1 ≤ r ∧ r ≤ 1200)
    (isOd : od ∈ outDividers) :
    let start := vDivStart desired (tolerance desired ppm) r od
    Finds
      ((List.range' start (maxV + 1 - start)).findSome? fun v =>
        tryVco desired (tolerance desired ppm) r od v)
      (Prod.Lex (· < ·) FilterBefore)
      (fun choice => Accepts desired requestedPpm (ppm, r, od, choice))
      (fun choice => results desired (ppm, r, od, choice)) := by
  intro start
  have tolerable := tolerance_le_self desired (withinPpm.trans millionth)
  apply Finds.loop (List.pairwise_lt_range' 1 (by decide))
  · intro choice accepted
    have range := accepted.2.1.v
    replace range : 12 ≤ choice.1 ∧ choice.1 ≤ 2055 := range
    have least := vDivStart_le accepted.2.1 tolerable accepted.2.2.1
    replace least : start ≤ choice.1 := least
    rw [List.mem_range'_1]
    unfold maxV
    omega
  · intro v isV
    have startRange := clampV_range
      (BitVec.ofInt 32 (truncate
        ((desired - tolerance desired ppm) * r * od / inputFreq))).toNat
    replace startRange : 12 ≤ start ∧ start ≤ 2055 := startRange
    rw [List.mem_range'_1] at isV
    unfold maxV at isV
    exact tryVco_finds withinPpm isR isOd (by omega)

theorem loopOd_finds (millionth : requestedPpm ≤ 1000000)
    (isR : 1 ≤ r ∧ r ≤ 1200) :
    Finds
      (outDividers.findSome? fun od =>
        let start := vDivStart desired (tolerance desired ppm) r od
        (List.range' start (maxV + 1 - start)).findSome? fun v =>
          tryVco desired (tolerance desired ppm) r od v)
      (Prod.Lex (· > ·) (Prod.Lex (· < ·) FilterBefore))
      (fun choice => Accepts desired requestedPpm (ppm, r, choice))
      (fun choice => results desired (ppm, r, choice)) := by
  apply Finds.loop outDividers_sorted
  · intro choice accepted
    exact accepted.2.1.od
  · intro od isOd
    exact loopV_finds withinPpm millionth isR isOd

theorem searchDividers_finds (millionth : requestedPpm ≤ 1000000) :
    Finds (searchDividers desired ppm)
      (Prod.Lex (· < ·) (Prod.Lex (· > ·) (Prod.Lex (· < ·) FilterBefore)))
      (fun choice => Accepts desired requestedPpm (ppm, choice))
      (fun choice => results desired (ppm, choice)) := by
  apply Finds.loop (List.pairwise_lt_range' 1 (by decide))
  · intro choice accepted
    have range := accepted.2.1.r
    replace range : 1 ≤ choice.1 ∧ choice.1 ≤ 1200 := range
    unfold minR maxR
    rw [List.mem_range'_1]
    omega
  · intro r isR
    rw [List.mem_range'_1] at isR
    unfold minR maxR at isR
    have range : 1 ≤ r ∧ r ≤ 1200 := by
      omega
    simp only [if_neg (rule2_holds range.1 range.2)]
    exact loopOd_finds withinPpm millionth range

end Loops

theorem increasePpm_finds (desired : Nat) {requestedPpm : Nat}
    (millionth : requestedPpm ≤ 1000000) :
    Finds (increasePpm desired requestedPpm) Before
      (Accepts desired requestedPpm) (results desired) := by
  apply Finds.loop List.pairwise_lt_range
  · intro choice accepted
    exact List.mem_range.mpr (Nat.lt_succ_of_le accepted.1)
  · intro ppm isPpm
    exact searchDividers_finds (Nat.le_of_lt_succ (List.mem_range.mp isPpm))
      millionth

instance : Std.Asymm FilterBefore :=
  inferInstanceAs (Std.Asymm (Prod.Lex (· > ·) (· < ·)))

theorem found_of_isFirst {desired requestedPpm ppm r od v rs icpnum : Nat}
    (isFirst : IsFirst Before (Accepts desired requestedPpm)
      (ppm, r, od, v, rs, icpnum)) :
    Found desired (tolerance desired requestedPpm) (.of desired r od v)
      (.of r v rs icpnum) ⟨r, od, v⟩ := by
  rcases isFirst.1 with ⟨withinPpm, admissible, near, _⟩
  have finds := @tryVco_finds desired _ _ _ _ _ withinPpm admissible.r
    admissible.od admissible.v
  have hit := finds.eq_some isFirst.inner.inner.inner.inner
  exact ⟨rfl, admissible, (tryVco_eq_some_iff.mp hit).2.2.1,
    near.trans (tolerance_le withinPpm)⟩

/-! ## What the search returns -/

theorem exists_accepts_iff {desired requestedPpm : Nat} :
    (∃ candidate, Accepts desired requestedPpm candidate) ↔
      ∃ r od v rs icpnum, (Dividers.mk r od v).Admissible ∧
        rs ∈ loopResistors ∧ icpnum ∈ chargePumpCurrents ∧
        ¬(IcpRsStruct.of r v rs icpnum).Rejected ∧
        (Dividers.mk r od v).error desired ≤ tolerance desired requestedPpm := by
  constructor
  · intro accepted
    rcases accepted with ⟨⟨ppm, r, od, v, rs, icpnum⟩, withinPpm, admissible,
      near, isResistor, isCurrent, suits⟩
    exact ⟨r, od, v, rs, icpnum, admissible, isResistor, isCurrent, suits,
      near.trans (tolerance_le withinPpm)⟩
  · intro accepted
    rcases accepted with ⟨r, od, v, rs, icpnum, admissible, isResistor, isCurrent,
      suits, near⟩
    exact ⟨(requestedPpm, r, od, v, rs, icpnum), Nat.le_refl _, admissible, near,
      isResistor, isCurrent, suits⟩

theorem exists_accepts_iff_reaches {desired requestedPpm : Nat} :
    (∃ candidate, Accepts desired requestedPpm candidate) ↔
      Reaches desired requestedPpm := by
  rw [exists_accepts_iff]
  constructor
  · intro accepted
    rcases accepted with ⟨r, od, v, rs, icpnum, admissible, isResistor, isCurrent,
      suits, near⟩
    exact ⟨⟨r, od, v⟩, admissible, (loopFilter_finds r v).complete (rs, icpnum)
      ⟨isResistor, isCurrent, suits⟩, near⟩
  · intro reaches
    rcases reaches with ⟨⟨r, od, v⟩, admissible, filter, near⟩
    rcases (loopFilter_finds r v).isSome_iff.mp filter with
      ⟨⟨rs, icpnum⟩, isResistor, isCurrent, suits⟩
    exact ⟨r, od, v, rs, icpnum, admissible, isResistor, isCurrent, suits, near⟩

theorem exists_word {desired requestedPpm : Nat} {candidate : Candidate}
    (accepted : Accepts desired requestedPpm candidate) :
    ∃ word, packDividers (results desired candidate).1
      (results desired candidate).2 = .ok word := by
  rcases candidate with ⟨ppm, r, od, v, rs, icpnum⟩
  rcases accepted with ⟨_, admissible, _, isResistor, isCurrent, _⟩
  rcases @packDividers_unpacks (.of desired r od v) (.of r v rs icpnum)
    admissible.r admissible.v admissible.od isResistor isCurrent with
    ⟨word, packs, _⟩
  exact ⟨word, packs⟩

theorem getIcs30703Data_outcome (desired : Nat) {ppm : Nat}
    (millionth : ppm ≤ 1000000) :
    (getIcs30703Data desired ppm = .error 2 ∧
        ∀ candidate, ¬Accepts desired ppm candidate) ∨
      ∃ first word,
        getIcs30703Data desired ppm =
          .ok ((results desired first).1, (results desired first).2, word) ∧
        packDividers (results desired first).1 (results desired first).2 = .ok word ∧
        IsFirst Before (Accepts desired ppm) first := by
  have finds := increasePpm_finds desired millionth
  cases found : increasePpm desired ppm with
  | none =>
      left
      constructor
      · rw [getIcs30703Data, found]
      · exact finds.eq_none_iff.mp found
  | some result =>
      right
      rcases finds.first result found with ⟨first, rfl, isFirst⟩
      rcases exists_word isFirst.1 with ⟨word, packs⟩
      refine ⟨first, word, ?_, packs, isFirst⟩
      rw [getIcs30703Data, found]
      simp only [packs]
      rfl

/-- Status 2 means that no setting is within the tolerance; otherwise the status
is 0 and the setting is the first of those that are, by the tolerance in whole
ppm, then the smallest reference divider, the largest output divider, the
smallest VCO divider, and the resistor and the current in the order of their
tables. -/
theorem getIcs30703Data_exhaustive (desired ppm : Nat)
    (millionth : ppm ≤ 1000000) :
    (getIcs30703Data desired ppm = .error 2 ↔
      ¬∃ r od v rs icpnum, (Dividers.mk r od v).Admissible ∧
        rs ∈ loopResistors ∧ icpnum ∈ chargePumpCurrents ∧
        ¬(IcpRsStruct.of r v rs icpnum).Rejected ∧
        (Dividers.mk r od v).error desired ≤ tolerance desired ppm) ∧
    (getIcs30703Data desired ppm ≠ .error 2 →
      ∃ first word,
        getIcs30703Data desired ppm =
          .ok ((results desired first).1, (results desired first).2, word) ∧
        IsFirst Before (Accepts desired ppm) first) := by
  rw [← exists_accepts_iff]
  rcases getIcs30703Data_outcome desired millionth with
    ⟨failed, nothing⟩ | ⟨first, word, succeeded, _, isFirst⟩
  · constructor
    · exact iff_of_true failed (not_exists.mpr nothing)
    · intro notFailed
      exact absurd failed notFailed
  · constructor
    · apply iff_of_false
      · intro failed
        rw [succeeded] at failed
        cases failed
      · exact not_not.mpr ⟨first, isFirst.1⟩
    · intro _
      exact ⟨first, word, succeeded, isFirst⟩

/-- 18432000 Hz at 10 ppm has a setting. -/
theorem getIcs30703Data_exhaustive_18MHz :
    ∃ first word,
      getIcs30703Data 18432000 10 =
        .ok ((results 18432000 first).1, (results 18432000 first).2, word) ∧
      IsFirst Before (Accepts 18432000 10) first := by
  have exhaustive := getIcs30703Data_exhaustive 18432000 10 (by decide)
  apply exhaustive.2
  intro failed
  apply exhaustive.1.mp failed
  have isOd : 5 ∈ outDividers :=
    mem_outDividers.mpr ⟨by decide, by decide, by decide⟩
  refine ⟨25, 5, 96, 64000, 250, ⟨by decide, isOd, by decide, ?_⟩, by decide,
    by decide, by decide +kernel, ?_⟩
  · norm_num [Dividers.vco, inputFreq, vcoMax]
  · norm_num [Dividers.error, Dividers.outputFrequency, tolerance, inputFreq]

end SerialFc.Ics30703
