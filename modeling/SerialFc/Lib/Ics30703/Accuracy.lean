import SerialFc.Lib.Ics30703.OperatingRange

/-! # How accurate a word is

The search widens its tolerance by one ppm at a time. Every clock has a level at
which it succeeds, and the tolerance that the caller asks for only says whether it
gets there.
-/

namespace SerialFc.Ics30703

theorem increasePpm_of_le {desired level ppm : Nat} (le : level ≤ ppm)
    {result : ResultStruct × IcpRsStruct}
    (found : increasePpm desired level = some result) :
    increasePpm desired ppm = some result := by
  have split : ppm + 1 = level + 1 + (ppm - level) := by
    omega
  unfold increasePpm at found ⊢
  rw [split, List.range_add, List.findSome?_append, found, Option.some_or]

theorem calculateClockBits_congr {freq ppm other : Nat}
    (same : increasePpm freq ppm = increasePpm freq other) (progbytes : ProgData) :
    calculateClockBits freq ppm progbytes = calculateClockBits freq other progbytes := by
  unfold calculateClockBits getIcs30703Data
  rw [same]

theorem calculateClockBits_of_succeeds {freq ppm : Nat} {progbytes word : ProgData}
    (succeeds : calculateClockBits freq ppm progbytes = (0, word)) (other : ProgData) :
    calculateClockBits freq ppm other = (0, word) := by
  unfold calculateClockBits at succeeds ⊢
  cases found : getIcs30703Data freq ppm with
  | error status =>
      rw [found] at succeeds
      exact absurd (Prod.mk.inj succeeds).1 (by decide)
  | ok result =>
      rcases result with ⟨theOne, theOther, progwords⟩
      rw [found] at succeeds
      exact succeeds

theorem tolerance_succ (freq ppm : Nat) :
    tolerance freq (ppm + 1) = tolerance freq ppm + freq / 1000000 := by
  unfold tolerance
  push_cast
  ring

/-- What is within a tolerance that the next smaller one does not reach is as good
as anything, to a millionth. -/
theorem error_le_of_least {freq level : Nat} {error : ℚ}
    (near : error ≤ tolerance freq level) (least : ∀ ppm < level, ¬Reachable freq ppm)
    {dividers : Dividers} (admissible : dividers.Admissible) :
    error ≤ dividers.error freq + freq / 1000000 := by
  cases level with
  | zero =>
      have zero : tolerance freq 0 = 0 := by
        simp [tolerance]
      have nonneg : 0 ≤ dividers.error freq := abs_nonneg _
      have millionth : (0 : ℚ) ≤ freq / 1000000 := by
        positivity
      linarith
  | succ ppm =>
      have far : tolerance freq ppm < dividers.error freq := by
        by_contra close
        exact least ppm (Nat.lt_succ_self ppm) ⟨dividers, admissible, not_lt.mp close⟩
      rw [tolerance_succ] at near
      linarith

/-- A clock that can be had at all has one word, from one tolerance up. No dividers
of the search come closer to the clock by more than a millionth of it. -/
theorem calculateClockBits_level (freq : Nat) :
    (∀ ppm ≤ 1000000, ∀ progbytes,
        calculateClockBits freq ppm progbytes = (1, progbytes)) ∨
      ∃ level ≤ 1000000, ∃ word,
        (∀ ppm progbytes, calculateClockBits freq ppm progbytes =
          if level ≤ ppm then (0, word) else (1, progbytes)) ∧
        |word.outputFrequency - freq| ≤ tolerance freq level ∧
        ∀ dividers : Dividers, dividers.Admissible →
          |word.outputFrequency - freq| ≤ dividers.error freq + freq / 1000000 := by
  by_cases possible : ∃ level ≤ 1000000, Reachable freq level
  · right
    classical
    let level := Nat.find possible
    rcases Nat.find_spec possible with ⟨millionth, reachable⟩
    replace millionth : level ≤ 1000000 := millionth
    have least : ∀ ppm < level, ¬Reachable freq ppm := by
      intro ppm below reached
      exact Nat.find_min possible below ⟨by omega, reached⟩
    rcases meetsRequest_of_reachable millionth reachable .start with
      ⟨word, succeeds, near⟩
    refine ⟨level, millionth, word, ?_, near,
      fun dividers => error_le_of_least near least⟩
    intro ppm progbytes
    split
    case isTrue le =>
      have found : (increasePpm freq level).isSome := by
        rw [(increasePpm_finds freq millionth).isSome_iff]
        exact exists_accepts_iff_reaches.mpr (reaches_iff.mpr reachable)
      rcases Option.isSome_iff_exists.mp found with ⟨result, isResult⟩
      rw [calculateClockBits_congr ((increasePpm_of_le le isResult).trans isResult.symm)]
      exact calculateClockBits_of_succeeds succeeds progbytes
    case isFalse above =>
      exact calculateClockBits_of_not_reachable (by omega) (least ppm (by omega))
        progbytes
  · left
    intro ppm small progbytes
    exact calculateClockBits_of_not_reachable small
      (fun reachable => possible ⟨ppm, small, reachable⟩) progbytes

end SerialFc.Ics30703
