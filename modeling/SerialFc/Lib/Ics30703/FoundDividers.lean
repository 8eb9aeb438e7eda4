import SerialFc.Lib.Ics30703.Search

/-! # What the search is after

Dividers of its ranges, with a loop filter, that meet the tolerance. The value
that the loop over `v` starts with skips none of them.
-/

namespace SerialFc.Ics30703

structure Dividers where
  r : Nat
  od : Nat
  v : Nat
  deriving DecidableEq

namespace Dividers

variable (dividers : Dividers)

def vco : ℚ := inputFreq * (dividers.v / dividers.r)

def outputFrequency : ℚ :=
  inputFreq * (dividers.v / (dividers.r * dividers.od))

def error (freq : Nat) : ℚ := |dividers.outputFrequency - freq|

/-- Dividers of the ranges of the loops that keep the VCO in its range. -/
structure Admissible : Prop where
  r : 1 ≤ dividers.r ∧ dividers.r ≤ 1200
  od : dividers.od ∈ outDividers
  v : 12 ≤ dividers.v ∧ dividers.v ≤ 2055
  vco : 90000000 ≤ dividers.vco ∧ dividers.vco ≤ vcoMax dividers.od

end Dividers

def tolerance (freq ppm : Nat) : ℚ := (ppm * freq : Nat) / 1000000

theorem tolerance_le {freq : Nat} {ppm larger : Nat} (le : ppm ≤ larger) :
    tolerance freq ppm ≤ tolerance freq larger := by
  have product : ppm * freq ≤ larger * freq := Nat.mul_le_mul_right freq le
  have productCast : ((ppm * freq : Nat) : ℚ) ≤ (larger * freq : Nat) := by
    exact_mod_cast product
  unfold tolerance
  linarith

theorem tolerance_le_self (freq : Nat) {ppm : Nat} (millionth : ppm ≤ 1000000) :
    tolerance freq ppm ≤ freq := by
  have whole : tolerance freq 1000000 = freq := by
    unfold tolerance
    push_cast
    ring
  rw [← whole]
  exact tolerance_le millionth

/-! ## One pass of the inner loop -/

theorem tryVco_eq_some_iff {desired : Nat} {allowableError : ℚ} {r od v : Nat}
    {theOne : ResultStruct} {theOther : IcpRsStruct} :
    tryVco desired allowableError r od v = some (theOne, theOther) ↔
      (90000000 ≤ (Dividers.mk r od v).vco ∧
        (Dividers.mk r od v).vco ≤ vcoMax od) ∧
      (Dividers.mk r od v).error desired ≤ allowableError ∧
      loopFilter r v = some theOther ∧ theOne = .of desired r od v := by
  unfold tryVco
  simp only [gt_iff_lt]
  split
  case isTrue outside =>
    constructor
    · intro found
      cases found
    · rintro ⟨⟨low, high⟩, _⟩
      rcases outside with below | above
      · exact absurd low (not_le.mpr below)
      · exact absurd high (not_le.mpr above)
  case isFalse inside =>
    have range := not_or.mp inside
    split
    case isTrue far =>
      constructor
      · intro found
        cases found
      · rintro ⟨_, near, _⟩
        exact absurd near (not_le.mpr far)
    case isFalse near =>
      rw [Option.map_eq_some_iff]
      constructor
      · rintro ⟨filter, suits, same⟩
        rcases Prod.mk.inj same with ⟨rfl, rfl⟩
        exact ⟨⟨not_lt.mp range.1, not_lt.mp range.2⟩, not_lt.mp near, suits, rfl⟩
      · rintro ⟨_, _, suits, rfl⟩
        exact ⟨theOther, suits, rfl⟩

/-! ## The start of the inner loop -/

theorem clampV_range (start : Nat) : 12 ≤ clampV start ∧ clampV start ≤ 2055 := by
  unfold clampV minV maxV
  split_ifs <;> omega

theorem clampV_le {start v : Nat} (low : 12 ≤ v) (le : start ≤ v) :
    clampV start ≤ v := by
  unfold clampV minV maxV
  split_ifs <;> omega

theorem toNat_ofInt_le {value : Int} {v : Nat} (nonneg : 0 ≤ value)
    (le : value ≤ v) : (BitVec.ofInt 32 value).toNat ≤ v := by
  rw [BitVec.toNat_ofInt]
  omega

theorem vDivStart_le {desired : Nat} {allowableError : ℚ} {dividers : Dividers}
    (admissible : dividers.Admissible) (tolerable : allowableError ≤ desired)
    (near : dividers.error desired ≤ allowableError) :
    vDivStart desired allowableError dividers.r dividers.od ≤ dividers.v := by
  rcases dividers with ⟨r, od, v⟩
  have rPos : (0 : ℚ) < r := by
    exact_mod_cast admissible.r.1
  have odPos : (0 : ℚ) < od := by
    exact_mod_cast (mem_outDividers.mp admissible.od).1.trans_lt' Nat.zero_lt_two
  have far : desired - allowableError ≤ 24000000 * (v / (r * od)) := by
    have below := (abs_le.mp near).1
    simp only [Dividers.outputFrequency, inputFreq] at below
    linarith
  have target : (desired - allowableError) * r * od / inputFreq ≤ v := by
    unfold inputFreq
    rw [div_le_iff₀ (by norm_num)]
    calc (desired - allowableError) * r * od
        ≤ 24000000 * (v / (r * od)) * r * od := by gcongr
      _ = v * 24000000 := by
        field_simp
  have positive : 0 ≤ (desired - allowableError) * r * od / inputFreq := by
    have difference : 0 ≤ desired - allowableError := by
      linarith
    unfold inputFreq
    positivity
  apply clampV_le admissible.v.1
  rw [truncate_of_nonneg positive]
  apply toNat_ofInt_le
  · exact Int.floor_nonneg.mpr positive
  · have floor := Int.floor_le ((desired - allowableError) * r * od / inputFreq)
    have both : (⌊(desired - allowableError) * r * od / inputFreq⌋ : ℚ) ≤ v := by
      linarith
    exact_mod_cast both

/-! ## One tolerance -/

structure Found (desired : Nat) (tolerance : ℚ) (theOne : ResultStruct)
    (theOther : IcpRsStruct) (dividers : Dividers) : Prop where
  result : theOne = .of desired dividers.r dividers.od dividers.v
  admissible : dividers.Admissible
  filter : loopFilter dividers.r dividers.v = some theOther
  near : dividers.error desired ≤ tolerance

/-- The range of the phase detector holds for every reference divider of the
loop. -/
theorem rule2_holds {r : Nat} (low : 1 ≤ r) (high : r ≤ 1200) :
    ¬(inputFreq / r < 20000 ∨ inputFreq / r > 100000000) := by
  have lowCast : (1 : ℚ) ≤ r := by
    exact_mod_cast low
  have highCast : (r : ℚ) ≤ 1200 := by
    exact_mod_cast high
  unfold inputFreq
  rw [not_or, not_lt, gt_iff_lt, not_lt, le_div_iff₀ (by linarith),
    div_le_iff₀ (by linarith)]
  constructor
  · linarith
  · linarith

/-! ## All tolerances -/

def Reaches (freq ppm : Nat) : Prop :=
  ∃ dividers : Dividers, dividers.Admissible ∧
    (loopFilter dividers.r dividers.v).isSome ∧
    dividers.error freq ≤ tolerance freq ppm

end SerialFc.Ics30703
