import Mathlib.Algebra.Order.Field.Rat
import Mathlib.Data.Rat.Floor
import Mathlib.Tactic.FieldSimp
import Mathlib.Tactic.Linarith
import Mathlib.Tactic.Positivity

/-! # The divider search of the ICS307-03

`GetICS30703Data` looks for a reference divider `r`, an output divider `od` and
a VCO divider `v` that bring the crystal close enough to the clock asked for,
and for a loop filter that suits them. It takes the first it comes to, and
widens what is close enough when there is none.

`double` is read as exact rational arithmetic; the one square root is compared
through its square. For clocks below 2 ^ 31 and up to a million ppm no
`unsigned long` or `int` of the search overflows, so these are natural numbers.
-/

namespace SerialFc.Ics30703

def inputFreq : ℚ := 24000000

def minR : Nat := 1
def maxR : Nat := 1200
def minV : Nat := 12
def maxV : Nat := 2055

structure ResultStruct where
  target : ℚ
  freq : ℚ
  errorPpm : ℚ
  vcoDiv : Nat
  refDiv : Nat
  outDiv : Nat
  failed : Int
  deriving DecidableEq

/-- The loop filter found with it. The damping factor `df` is a square root and
kept as its square. -/
structure IcpRsStruct where
  pdf : ℚ
  nbw : ℚ
  ratio : ℚ
  dfSquared : ℚ
  rs : Nat
  icp : ℚ
  icpnum : Nat
  deriving DecidableEq

/-- A `double` converted to `int`: the fraction is cut off. -/
def truncate (value : ℚ) : Int := value.num.tdiv value.den

/-! ## The loop filter -/

def loopResistors : List Nat := [64000, 52000, 16000, 4000]

def chargePumpCurrents : List Nat :=
  [125, 250, 375, 500, 625, 750, 875, 1000, 1125, 1250, 1500, 1750, 1875, 2000,
    2250, 2500, 2625, 3000, 3500, 4000]

/-- Every `icp` is its `icpnum` in units of 10 nA. -/
def chargePumpCurrent (icpnum : Nat) : ℚ := icpnum / 100000000

def nextTenth (ratio : ℚ) : ℚ :=
  let tempint := truncate (ratio * 10)
  let tempint := if ratio * 10 - tempint ≥ 0 then tempint + 1 else tempint
  tempint / 10

def IcpRsStruct.of (r v rs icpnum : Nat) : IcpRsStruct :=
  let icp := chargePumpCurrent icpnum
  let pdf := inputFreq / r
  let nbw := rs * icp * 310000000 / (2 * 3.14159 * v)
  { pdf, nbw, rs, icp, icpnum
    ratio := nextTenth (pdf / nbw)
    dfSquared := (rs / 2) ^ 2 * (icp * 0.093 / v) }

/-- The limits of the ratio, 7 to 30, and of the damping factor, 0.2 to 2. -/
def IcpRsStruct.Rejected (filter : IcpRsStruct) : Prop :=
  filter.ratio > 30 ∨ filter.ratio < 7 ∨ filter.dfSquared > 2.0 ^ 2 ∨
    filter.dfSquared < 0.2 ^ 2

instance (filter : IcpRsStruct) : Decidable filter.Rejected := by
  unfold IcpRsStruct.Rejected
  infer_instance

def loopFilter (r v : Nat) : Option IcpRsStruct :=
  loopResistors.findSome? fun rs =>
    chargePumpCurrents.findSome? fun icpnum =>
      let filter := IcpRsStruct.of r v rs icpnum
      if filter.Rejected then none else some filter

/-! ## The dividers -/

def vcoMax (od : Nat) : ℚ :=
  if od = 2 then 540000000
  else if od = 3 then 720000000
  else if od ≥ 38 ∧ od ≤ 1029 then 570000000
  else 730000000

def ResultStruct.of (desired r od v : Nat) : ResultStruct :=
  let freq := inputFreq * (v / (r * od))
  let freqErr := |freq - desired|
  { target := desired
    freq
    errorPpm := freqErr / desired * 1000000
    vcoDiv := v
    refDiv := r
    outDiv := od
    failed := 1 }

/-- The body of the loop over `v`: `none` goes on with the next VCO divider,
`some` is the jump to `finished`. -/
def tryVco (desired : Nat) (allowableError : ℚ) (r od v : Nat) :
    Option (ResultStruct × IcpRsStruct) :=
  let rule1 := inputFreq * (v / r)
  if rule1 < 90000000 ∨ rule1 > vcoMax od then none
  else
    let freq := inputFreq * (v / (r * od))
    let freqErr := |freq - desired|
    if freqErr > allowableError then none
    else
      (loopFilter r v).map fun filter =>
        (ResultStruct.of desired r od v, filter)

def clampV (start : Nat) : Nat :=
  if start < minV then minV
  else if start > maxV then maxV
  else start

/-- The VCO divider the loop starts with, just below the target: an `int`
stored in an `unsigned`. -/
def vDivStart (desired : Nat) (allowableError : ℚ) (r od : Nat) : Nat :=
  clampV
    (BitVec.ofInt 32
      (truncate ((desired - allowableError) * r * od / inputFreq))).toNat

/-- The step of the loop over `od`. -/
def odStep (od : Nat) : Nat :=
  if od ≤ 1030 then od - 1
  else if od ≤ 2060 then od - 2
  else if od ≤ 4120 then od - 4
  else od - 8

theorem odStep_lt {od : Nat} (large : 1 < od) : odStep od < od := by
  unfold odStep
  split
  · omega
  · split
    · omega
    · split
      · omega
      · omega

def outDividersFrom (od : Nat) : List Nat :=
  if od > 1 then od :: outDividersFrom (odStep od) else []
termination_by od
decreasing_by exact odStep_lt ‹od > 1›

def outDividers : List Nat := outDividersFrom 8232

def searchDividers (desired ppm : Nat) : Option (ResultStruct × IcpRsStruct) :=
  let allowableError : ℚ := (ppm * desired : Nat) / 1000000
  (List.range' minR (maxR + 1 - minR)).findSome? fun (r : Nat) =>
    let rule2 := inputFreq / r
    if rule2 < 20000 ∨ rule2 > 100000000 then none
    else
      outDividers.findSome? fun od =>
        let start := vDivStart desired allowableError r od
        (List.range' start (maxV + 1 - start)).findSome? fun v =>
          tryVco desired allowableError r od v

def increasePpm (desired requestedPpm : Nat) :
    Option (ResultStruct × IcpRsStruct) :=
  (List.range (requestedPpm + 1)).findSome? fun ppm =>
    searchDividers desired ppm

/-! ## Truncation -/

theorem truncate_of_nonneg {value : ℚ} (nonneg : 0 ≤ value) :
    truncate value = ⌊value⌋ := by
  have num : 0 ≤ value.num := Rat.num_nonneg.mpr nonneg
  rw [truncate, Int.tdiv_eq_ediv_of_nonneg num, Rat.floor_def']

theorem nextTenth_of_nonneg {ratio : ℚ} (nonneg : 0 ≤ ratio) :
    nextTenth ratio = (⌊ratio * 10⌋ + 1 : ℤ) / 10 := by
  have truncated := @truncate_of_nonneg (ratio * 10) (by positivity)
  have below := Int.floor_le (ratio * 10)
  simp only [nextTenth, truncated]
  rw [if_pos (by linarith)]

theorem nextTenth_range {ratio : ℚ} (low : 6.9 ≤ ratio) (high : ratio < 30) :
    7 ≤ nextTenth ratio ∧ nextTenth ratio ≤ 30 := by
  have lowFloor : 69 ≤ ⌊ratio * 10⌋ := by
    apply Int.le_floor.mpr
    push_cast
    linarith
  have highFloor : ⌊ratio * 10⌋ < 300 := by
    apply Int.floor_lt.mpr
    push_cast
    linarith
  rw [nextTenth_of_nonneg (by linarith)]
  have lowCast : (69 : ℚ) ≤ ⌊ratio * 10⌋ := by
    exact_mod_cast lowFloor
  have highCast : (⌊ratio * 10⌋ : ℚ) ≤ 299 := by
    exact_mod_cast Int.lt_add_one_iff.mp highFloor
  push_cast
  constructor
  · linarith
  · linarith

/-! ## The output dividers -/

/-- The grid of the loop over `od`. -/
def OnGrid (od : Nat) : Prop :=
  od ≤ 1030 ∨ (od ≤ 2060 ∧ od % 2 = 0) ∨ (od ≤ 4120 ∧ od % 4 = 0) ∨ od % 8 = 0

instance (od : Nat) : Decidable (OnGrid od) := by
  unfold OnGrid
  infer_instance

theorem mem_outDividersFrom {first od : Nat} (onGrid : OnGrid first) :
    od ∈ outDividersFrom first ↔ 2 ≤ od ∧ od ≤ first ∧ OnGrid od := by
  induction first using outDividersFrom.induct with
  | case1 first large hypothesis =>
      have next : OnGrid (odStep first) := by
        unfold OnGrid odStep at *
        split_ifs <;> omega
      rw [outDividersFrom, if_pos large, List.mem_cons, hypothesis next]
      have step := odStep_lt large
      constructor
      · rintro (rfl | ⟨low, high, grid⟩)
        · exact ⟨large, Nat.le_refl _, onGrid⟩
        · exact ⟨low, by omega, grid⟩
      · rintro ⟨low, high, grid⟩
        by_cases same : od = first
        · exact .inl same
        · refine .inr ⟨low, ?_, grid⟩
          unfold OnGrid odStep at *
          split_ifs <;> omega
  | case2 first small =>
      rw [outDividersFrom, if_neg small]
      constructor
      · intro member
        cases member
      · omega

theorem mem_outDividers {od : Nat} :
    od ∈ outDividers ↔ 2 ≤ od ∧ od ≤ 8232 ∧ OnGrid od :=
  mem_outDividersFrom (by unfold OnGrid; omega)

end SerialFc.Ics30703
