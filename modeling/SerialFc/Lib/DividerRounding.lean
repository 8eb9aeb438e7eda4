import SerialFc.Lib.DividerSearch

/-! # Calculated and put out

The search compares clocks that it calculates in integers, dividing before it
multiplies. The clock that the generator puts out is higher by what the
division loses.
-/

namespace SerialFc

/-- No divider that was considered puts out a clock closer to the rate than the
one that was taken. -/
def ClosestOutput (rate progbytes : BitVec 32) : Prop :=
  ∀ word, getIcs30702Data rate progbytes = (0, word) →
    ∀ other : Divider, other.Admissible rate.toNat →
      |(unpackDivider word).outputFrequency - rate.toNat| ≤
        |other.outputFrequency - rate.toNat|

theorem Divider.distance_cast (rate : Nat) (divider : Divider) :
    (divider.distance rate : ℚ) = |(divider.check : ℚ) - rate| := by
  rw [distance, Nat.cast_natAbs]
  push_cast
  rfl

theorem Divider.Admissible.outputFrequency_range {rate : Nat}
    {divider : Divider} (admissible : divider.Admissible rate) :
    0 ≤ divider.outputFrequency - divider.check ∧
      divider.outputFrequency - divider.check < divider.vdw + 8 := by
  have positive : 0 < divider.od := by
    have := admissible.od_range
    omega
  have near := outputFrequency_near_check positive
  constructor
  · linarith
  · linarith

/-- The clock taken is farther from the rate than another only by what the
integer divisions of the two lose, each less than one step of the VCO
divider. -/
theorem output_nearly_closest {rate progbytes word : BitVec 32}
    (run : getIcs30702Data rate progbytes = (0, word)) {other : Divider}
    (admissible : other.Admissible rate.toNat) :
    let best := unpackDivider word
    |best.outputFrequency - rate.toNat| ≤
        |other.outputFrequency - rate.toNat| +
          (best.outputFrequency - best.check) +
          (other.outputFrequency - other.check) ∧
      best.outputFrequency - best.check < best.vdw + 8 ∧
      other.outputFrequency - other.check < other.vdw + 8 := by
  intro best
  rcases getIcs30702Data_cases rate progbytes with
    ⟨_, found, code, _, foundRun, unpacked, isBest, _⟩ | ⟨_, failed⟩
  · rw [foundRun] at run
    have isFound : best = found := by
      rw [← unpacked, (Prod.mk.inj run).2]
    rw [isFound]
    have foundRange := isBest.admissible.outputFrequency_range
    have otherRange := admissible.outputFrequency_range
    have closest := isBest.closest other admissible
    refine ⟨?_, foundRange.2, otherRange.2⟩
    have closestRat : |(found.check : ℚ) - rate.toNat| ≤
        |(other.check : ℚ) - rate.toNat| := by
      rw [← Divider.distance_cast, ← Divider.distance_cast]
      exact_mod_cast closest
    have shiftFound := abs_sub_le found.outputFrequency found.check
      (rate.toNat : ℚ)
    have shiftOther := abs_sub_le (other.check : ℚ) other.outputFrequency
      (rate.toNat : ℚ)
    rw [abs_of_nonneg foundRange.1] at shiftFound
    rw [abs_sub_comm (other.check : ℚ) other.outputFrequency,
      abs_of_nonneg otherRange.1] at shiftOther
    linarith
  · rw [failed] at run
    have status : (1 : Int) = 0 := (Prod.mk.inj run).1
    exact absurd status (by decide)

/-- For 18.432 MHz no other divider is more than 1038 Hz closer. -/
theorem output_nearly_closest_18MHz :
    ∃ word, getIcs30702Data 18432000 0 = (0, word) ∧
      ∀ other : Divider, other.Admissible 18432000 →
        |(unpackDivider word).outputFrequency - (18432000 : Nat)| ≤
          |other.outputFrequency - (18432000 : Nat)| +
            ((unpackDivider word).vdw + 8) + (other.vdw + 8) := by
  have narrowed : (18432000 : BitVec 32).toNat = 18432000 := by decide
  have reached : Reached 18432000 := by
    rcases @exists_close 18432000 (by decide) (by decide) with
      ⟨divider, admissible, close⟩
    refine ⟨divider, admissible, .inl ?_⟩
    unfold Divider.distance
    omega
  rcases getIcs30702Data_cases 18432000 0 with
    ⟨_, best, code, _, run, _⟩ | ⟨notReached, _⟩
  · refine ⟨_, run, ?_⟩
    intro other admissible
    rw [← narrowed] at admissible
    have near := output_nearly_closest run admissible
    rw [narrowed] at near
    linarith [near.1, near.2.1, near.2.2]
  · rw [narrowed] at notReached
    exact absurd reached notReached

/-! ## A rate for which the closest clock is passed over -/

theorem outputFrequency_of_check_eq {rate : Nat} {divider : Divider}
    (admissible : divider.Admissible rate) (check : divider.check = 46472170) :
    divider.outputFrequency = 36864000 * 503 / 399 := by
  have words : ∀ step < 520, 12 ≤ step → 46472170 % step = 0 → step = 503 := by
    decide +kernel
  have range := admissible.vdw
  unfold Divider.check inFreq at check
  have divides : 46472170 % (divider.vdw + 8) = 0 := by
    rw [← check]
    exact Nat.mul_mod_left _ _
  have step := words (divider.vdw + 8) (by omega) (by omega) divides
  rw [step] at check
  have quotient : 18432000 * 2 / ((divider.rdw + 2) * divider.od) = 92390 := by
    omega
  have positive : 0 < (divider.rdw + 2) * divider.od :=
    Nat.mul_pos (by omega) (by have := admissible.od_range; omega)
  have product : (divider.rdw + 2) * divider.od = 399 := by
    have below := Nat.div_mul_le_self (18432000 * 2)
      ((divider.rdw + 2) * divider.od)
    have above := Nat.lt_mul_div_succ (18432000 * 2) positive
    rw [quotient] at below above
    omega
  have productRat : ((divider.rdw : ℚ) + 2) * divider.od = 399 := by
    exact_mod_cast product
  have stepRat : (divider.vdw : ℚ) + 8 = 503 := by
    exact_mod_cast step
  rw [Divider.outputFrequency, productRat, stepRat]

/-- At 46472170 Hz the search takes a divider whose calculated clock is exact
and whose output is 492 Hz off, and passes one over that is less than a Hertz
off. -/
theorem not_closestOutput_46MHz : ¬ClosestOutput 46472170 0 := by
  have exact : Divider.Admissible 46472170 ⟨495, 55, 7⟩ := by
    refine ⟨by decide, by decide, by decide, by decide, ?_⟩
    norm_num [Divider.InRange, Divider.range1, Divider.range2, inFreq]
  have closer : Divider.Admissible 46472170 ⟨229, 45, 4⟩ := by
    refine ⟨by decide, by decide, by decide, by decide, ?_⟩
    norm_num [Divider.InRange, Divider.range1, Divider.range2, inFreq]
  have exactDistance : Divider.distance 46472170 ⟨495, 55, 7⟩ = 0 := by
    norm_num [Divider.distance, Divider.check, inFreq]
  have narrowed : (46472170 : BitVec 32).toNat = 46472170 := by decide
  intro closest
  rcases getIcs30702Data_cases 46472170 0 with
    ⟨_, best, code, _, run, unpacked, isBest, _⟩ | ⟨notReached, _⟩
  · have passedOver := closest _ run ⟨229, 45, 4⟩ closer
    rw [narrowed] at isBest passedOver
    have distance := isBest.closest _ exact
    rw [exactDistance] at distance
    have check : best.check = 46472170 := by
      unfold Divider.distance at distance
      omega
    rw [unpacked, outputFrequency_of_check_eq isBest.admissible check]
      at passedOver
    norm_num [Divider.outputFrequency, abs_le] at passedOver
  · apply notReached
    rw [narrowed]
    refine ⟨⟨495, 55, 7⟩, exact, .inl ?_⟩
    rw [exactDistance]
    decide

end SerialFc
