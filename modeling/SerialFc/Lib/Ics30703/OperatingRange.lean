import SerialFc.Lib.Ics30703.FirstDividers

/-! # The clocks that can be reached

Which clocks the search finds dividers for is a question about the dividers
alone: whatever the VCO clock, multiples of the dividers have a loop filter. Of
the documented range, the clocks below 10.9 kHz are out of reach, and at small
tolerances some clocks between two settings of the dividers.
-/

namespace SerialFc.Ics30703

/-! ## Loop filters -/

/-- With the largest resistor, two currents serve all VCO clocks once the VCO
divider is large. -/
theorem accepted_of {r v icpnum : Nat} (isCurrent : icpnum ∈ chargePumpCurrents)
    (accepted : ¬(IcpRsStruct.of r v 64000 icpnum).Rejected) :
    (loopFilter r v).isSome := by
  simp only [loopFilter, List.findSome?_isSome_iff]
  refine ⟨64000, by decide, icpnum, isCurrent, ?_⟩
  rw [if_neg accepted]
  rfl

theorem not_rejected {r v icpnum : Nat} (rPos : 0 < r) (vPos : 0 < v)
    (icpPos : 0 < icpnum)
    (lowRatio : (6.9 : ℚ) * (1984 * icpnum * r) ≤ 1507963.2 * v)
    (highRatio : (1507963.2 : ℚ) * v < 30 * (1984 * icpnum * r))
    (lowDamping : (0.04 : ℚ) * v ≤ 0.95232 * icpnum)
    (highDamping : (0.95232 : ℚ) * icpnum ≤ 4 * v) :
    ¬(IcpRsStruct.of r v 64000 icpnum).Rejected := by
  have rCast : (0 : ℚ) < r := by
    exact_mod_cast rPos
  have vCast : (0 : ℚ) < v := by
    exact_mod_cast vPos
  have icpCast : (0 : ℚ) < icpnum := by
    exact_mod_cast icpPos
  have ratio : inputFreq / r /
      ((64000 : Nat) * chargePumpCurrent icpnum * 310000000 / (2 * 3.14159 * v)) =
      1507963.2 * v / (1984 * icpnum * r) := by
    unfold inputFreq chargePumpCurrent
    push_cast
    field_simp
    norm_num
  have damping : ((64000 : Nat) / 2 : ℚ) ^ 2 *
      (chargePumpCurrent icpnum * 0.093 / v) = 0.95232 * icpnum / v := by
    unfold chargePumpCurrent
    push_cast
    field_simp
    norm_num
  have ratioRange := @nextTenth_range (1507963.2 * v / (1984 * icpnum * r))
    ((le_div_iff₀ (by positivity)).mpr lowRatio)
    ((div_lt_iff₀ (by positivity)).mpr highRatio)
  have lowSquare : (0.2 : ℚ) ^ 2 ≤ 0.95232 * icpnum / v := by
    rw [le_div_iff₀ vCast]
    linarith
  have highSquare : (0.95232 : ℚ) * icpnum / v ≤ 2.0 ^ 2 := by
    rw [div_le_iff₀ vCast]
    linarith
  simp only [IcpRsStruct.Rejected, IcpRsStruct.of, ratio, damping]
  rw [not_or, not_or, not_or]
  exact ⟨not_lt.mpr ratioRange.2, not_lt.mpr ratioRange.1, not_lt.mpr highSquare,
    not_lt.mpr lowSquare⟩

theorem vcoMax_le (od : Nat) : vcoMax od ≤ 730000000 := by
  unfold vcoMax
  split_ifs <;> norm_num

theorem le_vcoMax (od : Nat) : 540000000 ≤ vcoMax od := by
  unfold vcoMax
  split_ifs <;> norm_num

theorem Dividers.Admissible.vco_range {dividers : Dividers}
    (admissible : dividers.Admissible) :
    (3.75 : ℚ) * dividers.r ≤ dividers.v ∧
      (dividers.v : ℚ) ≤ 30.5 * dividers.r := by
  have rPos : (0 : ℚ) < dividers.r := by
    exact_mod_cast admissible.r.1
  have low := admissible.vco.1
  have high := admissible.vco.2.trans (vcoMax_le dividers.od)
  unfold Dividers.vco inputFreq at low high
  rw [← mul_div_assoc] at low high
  rw [le_div_iff₀ rPos] at low
  rw [div_le_iff₀ rPos] at high
  constructor
  · linarith
  · linarith

theorem loopFilter_isSome {dividers : Dividers} (admissible : dividers.Admissible)
    (large : 1028 ≤ dividers.v) : (loopFilter dividers.r dividers.v).isSome := by
  have range := admissible.vco_range
  have low : (1028 : ℚ) ≤ dividers.v := by
    exact_mod_cast large
  have high : (dividers.v : ℚ) ≤ 2055 := by
    exact_mod_cast admissible.v.2
  have rPos : 0 < dividers.r := admissible.r.1
  have vPos : 0 < dividers.v := by
    omega
  by_cases slow : (dividers.v : ℚ) ≤ 9.8 * dividers.r
  · apply @accepted_of _ _ 250 (by decide)
    apply not_rejected rPos vPos (by decide)
    all_goals
      push_cast
      linarith
  · apply @accepted_of _ _ 1000 (by decide)
    apply not_rejected rPos vPos (by decide)
    all_goals
      push_cast
      linarith

/-! ## Multiples of the dividers -/

/-- The largest multiple of the dividers puts the same clock out, and has a loop
filter. -/
theorem exists_filtered {dividers : Dividers} (admissible : dividers.Admissible) :
    ∃ other : Dividers, other.Admissible ∧
      (loopFilter other.r other.v).isSome ∧
      other.outputFrequency = dividers.outputFrequency := by
  rcases dividers with ⟨r, od, v⟩
  have range := admissible.vco_range
  have vRange := admissible.v
  replace vRange : 12 ≤ v ∧ v ≤ 2055 := vRange
  have rPos : (0 : ℚ) < r := by
    exact_mod_cast admissible.r.1
  let multiple := 2055 / v
  have multiplePos : 0 < multiple := Nat.div_pos vRange.2 (by omega)
  have multipleCast : (0 : ℚ) < multiple := by
    exact_mod_cast multiplePos
  have below : multiple * v ≤ 2055 := Nat.div_mul_le_self 2055 v
  have above : 2055 < v * (multiple + 1) := Nat.lt_mul_div_succ 2055 (by omega)
  have large : 1028 ≤ multiple * v := by
    have enough : v ≤ multiple * v := Nat.le_mul_of_pos_left v multiplePos
    rw [Nat.mul_add, Nat.mul_comm] at above
    omega
  have ratio : ((multiple * v : Nat) / (multiple * r : Nat) : ℚ) = v / r := by
    push_cast
    exact mul_div_mul_left _ _ multipleCast.ne'
  have rSmall : multiple * r ≤ 1200 := by
    have scaled : (3.75 : ℚ) * (multiple * r) ≤ multiple * v := by
      have := mul_le_mul_of_nonneg_left range.1 multipleCast.le
      linarith
    have belowCast : ((multiple : ℚ) * v) ≤ 2055 := by
      exact_mod_cast below
    have small : (multiple * r : ℚ) ≤ 1200 := by
      linarith
    exact_mod_cast small
  have admissibleOther :
      (Dividers.mk (multiple * r) od (multiple * v)).Admissible := by
    refine ⟨⟨?_, rSmall⟩, admissible.od, ⟨?_, below⟩, ?_⟩
    · exact Nat.mul_pos multiplePos admissible.r.1
    · exact le_trans (by decide) large
    · have vco := admissible.vco
      unfold Dividers.vco at vco ⊢
      simp only [ratio]
      exact vco
  refine ⟨_, admissibleOther, loopFilter_isSome admissibleOther large, ?_⟩
  simp only [Dividers.outputFrequency]
  rw [← div_div, ← div_div, ratio]

def Reachable (freq ppm : Nat) : Prop :=
  ∃ dividers : Dividers, dividers.Admissible ∧
    dividers.error freq ≤ tolerance freq ppm

theorem reaches_iff {freq ppm : Nat} : Reaches freq ppm ↔ Reachable freq ppm := by
  constructor
  · rintro ⟨dividers, admissible, _, near⟩
    exact ⟨dividers, admissible, near⟩
  · rintro ⟨dividers, admissible, near⟩
    rcases exists_filtered admissible with
      ⟨other, admissibleOther, filter, same⟩
    refine ⟨other, admissibleOther, filter, ?_⟩
    unfold Dividers.error at near ⊢
    rw [same]
    exact near

/-! ## Where the reachable clocks lie -/

theorem Reachable.low {freq ppm : Nat} (reachable : Reachable freq ppm) :
    90000000000000 ≤ 8232 * freq * (1000000 + ppm) := by
  rcases reachable with ⟨⟨r, od, v⟩, admissible, near⟩
  have odRange := mem_outDividers.mp admissible.od
  replace odRange : 2 ≤ od ∧ od ≤ 8232 ∧ OnGrid od := odRange
  have odPos : (0 : ℚ) < od := by
    exact_mod_cast Nat.lt_of_lt_of_le Nat.zero_lt_two odRange.1
  have odSmall : (od : ℚ) ≤ 8232 := by
    exact_mod_cast odRange.2.1
  have vco := admissible.vco.1
  have above := (abs_le.mp near).2
  simp only [Dividers.outputFrequency, Dividers.vco, tolerance] at vco above
  push_cast at above
  rw [← div_div, ← mul_div_assoc, sub_le_iff_le_add, div_le_iff₀ odPos] at above
  have product : ((ppm : ℚ) * freq / 1000000 + freq) * od ≤
      (ppm * freq / 1000000 + freq) * 8232 := by
    gcongr
  have bound : (90000000000000 : ℚ) ≤ 8232 * freq * (1000000 + ppm) := by
    linarith
  exact_mod_cast bound

/-- Between two VCO dividers far enough up, rounding to the nearest is near
enough. -/
theorem reachable_of_window {freq ppm od r low high : Nat}
    (isOd : od ∈ outDividers) (rRange : 1 ≤ r ∧ r ≤ 1200) (lowRange : 12 ≤ low)
    (highRange : high ≤ 2055) (vcoLow : 90 * r ≤ 24 * low)
    (vcoHigh : 24 * high ≤ 540 * r) (fine : 500000 ≤ low * ppm)
    (above : 24000000 * low ≤ freq * od * r)
    (below : freq * od * r ≤ 24000000 * high) : Reachable freq ppm := by
  let v := (freq * od * r + 12000000) / 24000000
  have vRange : low ≤ v ∧ v ≤ high := by
    omega
  have nearest : 24000000 * v ≤ freq * od * r + 12000000 ∧
      freq * od * r ≤ 24000000 * v + 12000000 := by
    omega
  have rPos : (0 : ℚ) < r := by
    exact_mod_cast rRange.1
  have odPos : (0 : ℚ) < od := by
    exact_mod_cast Nat.lt_of_lt_of_le Nat.zero_lt_two (mem_outDividers.mp isOd).1
  have enough : 12000000000000 ≤ ppm * (freq * od * r) := by
    calc 12000000000000
        = 24000000 * 500000 := rfl
      _ ≤ 24000000 * (low * ppm) := Nat.mul_le_mul_left _ fine
      _ = ppm * (24000000 * low) := by ring
      _ ≤ ppm * (freq * od * r) := Nat.mul_le_mul_left _ above
  have scaled : (12000000 : ℚ) ≤ (ppm * freq : Nat) / 1000000 * (r * od) := by
    have enoughCast : (12000000000000 : ℚ) ≤ ppm * (freq * od * r) := by
      exact_mod_cast enough
    push_cast
    linarith
  have nearestCast : (24000000 * v : ℚ) ≤ freq * od * r + 12000000 ∧
      (freq * od * r : ℚ) ≤ 24000000 * v + 12000000 := by
    exact_mod_cast nearest
  refine ⟨⟨r, od, v⟩, ⟨rRange, isOd, ⟨?_, ?_⟩, ?_⟩, ?_⟩
  · exact lowRange.trans vRange.1
  · exact vRange.2.trans highRange
  · have slow : (90 * r : ℚ) ≤ 24 * v := by
      exact_mod_cast vcoLow.trans (Nat.mul_le_mul_left 24 vRange.1)
    have fast : (24 * v : ℚ) ≤ 540 * r := by
      exact_mod_cast (Nat.mul_le_mul_left 24 vRange.2).trans vcoHigh
    unfold Dividers.vco inputFreq
    rw [← mul_div_assoc]
    constructor
    · rw [le_div_iff₀ rPos]
      linarith
    · apply le_trans _ (le_vcoMax od)
      rw [div_le_iff₀ rPos]
      linarith
  · unfold Dividers.error Dividers.outputFrequency tolerance inputFreq
    rw [← mul_div_assoc, abs_le]
    constructor
    · rw [le_sub_iff_add_le, le_div_iff₀ (by positivity)]
      linarith
    · rw [sub_le_iff_le_add, div_le_iff₀ (by positivity)]
      linarith

theorem exists_outDivider {freq : Nat} (low : 90000000 ≤ 8232 * freq)
    (high : freq ≤ 45000000) :
    ∃ od ∈ outDividers, 90000000 ≤ freq * od ∧ freq * od ≤ 180000000 := by
  -- One below the least that is large enough, and from there up to the grid.
  let below := (90000000 - 1) / freq
  have belowLow : freq * below ≤ 90000000 - 1 := Nat.mul_div_le _ _
  have belowHigh : 90000000 - 1 < freq * (below + 1) :=
    Nat.lt_mul_div_succ _ (by omega)
  have belowPos : 1 ≤ below :=
    (Nat.le_div_iff_mul_le (by omega)).mpr (by omega)
  have belowSmall : below < 8232 :=
    (Nat.div_lt_iff_lt_mul (by omega)).mpr (by omega)
  have step : ∃ up, 1 ≤ up ∧ up ≤ 8 ∧ (below ≤ 1029 → up = 1) ∧
      below + up ≤ 8232 ∧ OnGrid (below + up) := by
    unfold OnGrid
    by_cases first : below ≤ 1029
    · exact ⟨1, by omega⟩
    · by_cases second : below ≤ 2059
      · exact ⟨2 - below % 2, by omega⟩
      · by_cases third : below ≤ 4119
        · exact ⟨4 - below % 4, by omega⟩
        · exact ⟨8 - below % 8, by omega⟩
  rcases step with ⟨up, upPos, upSmall, upOne, upRange, grid⟩
  refine ⟨below + up, mem_outDividers.mpr ⟨by omega, upRange, grid⟩, ?_, ?_⟩
  · have enough : freq * (below + 1) ≤ freq * (below + up) :=
      Nat.mul_le_mul_left freq (by omega)
    omega
  · rw [Nat.mul_add]
    by_cases first : below ≤ 1029
    · rw [upOne first]
      omega
    · have large : freq * 1030 ≤ freq * below := Nat.mul_le_mul_left freq (by omega)
      have rest : freq * up ≤ freq * 8 := Nat.mul_le_mul_left freq upSmall
      omega

theorem reachable_slowest {freq ppm : Nat} (slow : 8232 * freq ≤ 90000000)
    (low : 90000000000000 ≤ 8232 * freq * (1000000 + ppm)) :
    Reachable freq ppm := by
  have slowCast : (8232 * freq : ℚ) ≤ 90000000 := by
    exact_mod_cast slow
  have lowCast : (90000000000000 : ℚ) ≤ 8232 * freq * (1000000 + ppm) := by
    exact_mod_cast low
  refine ⟨⟨4, 8232, 15⟩, ⟨by decide, ?_, by decide, ?_⟩, ?_⟩
  · exact mem_outDividers.mpr ⟨by decide, by decide, by decide⟩
  · norm_num [Dividers.vco, inputFreq, vcoMax]
  · unfold Dividers.error Dividers.outputFrequency tolerance inputFreq
    push_cast
    rw [abs_le]
    constructor
    · linarith
    · linarith

/-- From 500 ppm on, nothing between the slowest clock and 270 MHz is out of
reach. -/
theorem reachable_of_coarse {freq ppm : Nat} (coarse : 500 ≤ ppm)
    (low : 90000000000000 ≤ 8232 * freq * (1000000 + ppm))
    (high : freq ≤ 270000000) : Reachable freq ppm := by
  have two : 2 ∈ outDividers :=
    mem_outDividers.mpr ⟨by decide, by decide, by decide⟩
  by_cases slowest : 8232 * freq ≤ 90000000
  · exact reachable_slowest slowest low
  · by_cases slow : freq ≤ 45000000
    · rcases exists_outDivider (by omega) slow with ⟨od, isOd, vcoLow, vcoHigh⟩
      exact @reachable_of_window freq ppm od 268 1005 2010 isOd (by decide)
        (by decide) (by decide) (by decide) (by decide) (by omega) (by omega)
        (by omega)
    · by_cases medium : freq ≤ 90000000
      · exact @reachable_of_window freq ppm 2 268 1005 2010 two (by decide)
          (by decide) (by decide) (by decide) (by decide) (by omega) (by omega)
          (by omega)
      · by_cases fast : freq ≤ 180000000
        · exact @reachable_of_window freq ppm 2 136 1020 2040 two (by decide)
            (by decide) (by decide) (by decide) (by decide) (by omega) (by omega)
            (by omega)
        · exact @reachable_of_window freq ppm 2 90 1350 2025 two (by decide)
            (by decide) (by decide) (by decide) (by decide) (by omega) (by omega)
            (by omega)

/-! ## The operating range -/

def MeetsRequest (freq ppm : Nat) : Prop :=
  ∀ progbytes, ∃ word, calculateClockBits freq ppm progbytes = (0, word) ∧
    |word.outputFrequency - freq| ≤ tolerance freq ppm

def CoversRange : Prop :=
  ∀ freq ppm, 200 ≤ freq → freq ≤ 270000000 → 10 ≤ ppm → ppm ≤ 100000 →
    MeetsRequest freq ppm

theorem outputFrequency_of_unpacked {progdata : ProgData} {dividers : Dividers}
    (refDiv : progdata.refDiv = dividers.r) (vcoDiv : progdata.vcoDiv = dividers.v)
    (outDiv : progdata.outDiv = dividers.od) :
    progdata.outputFrequency = dividers.outputFrequency := by
  unfold ProgData.outputFrequency Dividers.outputFrequency inputFreq
  rw [refDiv, vcoDiv, outDiv, mul_div_assoc]

theorem meetsRequest_of_reachable {freq ppm : Nat} (millionth : ppm ≤ 1000000)
    (reachable : Reachable freq ppm) : MeetsRequest freq ppm := by
  intro progbytes
  have accepted := exists_accepts_iff_reaches.mpr (reaches_iff.mpr reachable)
  rcases getIcs30703Data_outcome freq millionth with
    ⟨_, nothing⟩ | ⟨first, word, succeeded, packed, isFirst⟩
  · exact absurd accepted (not_exists.mpr nothing)
  · rcases first with ⟨within, r, od, v, rs, icpnum⟩
    rcases isFirst.1 with ⟨_, admissible, _, isResistor, isCurrent, _⟩
    rcases @packDividers_unpacks (.of freq r od v) (.of r v rs icpnum)
      admissible.r admissible.v admissible.od isResistor isCurrent with
      ⟨progdata, packs, refDiv, vcoDiv, outDiv⟩
    have same : Except.ok word = Except.ok progdata := packed.symm.trans packs
    cases same
    refine ⟨word, ?_, ?_⟩
    · unfold calculateClockBits
      rw [succeeded]
    · rw [@outputFrequency_of_unpacked _ ⟨r, od, v⟩ refDiv vcoDiv outDiv]
      exact (found_of_isFirst isFirst).near

theorem calculateClockBits_of_not_reachable {freq ppm : Nat}
    (millionth : ppm ≤ 1000000) (unreachable : ¬Reachable freq ppm)
    (progbytes : ProgData) :
    calculateClockBits freq ppm progbytes = (1, progbytes) := by
  rcases getIcs30703Data_outcome freq millionth with
    ⟨failed, _⟩ | ⟨first, word, _, _, isFirst⟩
  · unfold calculateClockBits
    rw [failed]
  · have reaches := exists_accepts_iff_reaches.mp ⟨first, isFirst.1⟩
    exact absurd (reaches_iff.mp reaches) unreachable

/-- A request is met exactly when dividers of the search can meet it, and fails
otherwise with the caller's bytes left alone. From 500 ppm on, those are all
from the slowest clock up. -/
theorem meetsRequest_iff {freq ppm : Nat} (high : freq ≤ 270000000)
    (small : ppm ≤ 100000) :
    (MeetsRequest freq ppm ↔ Reachable freq ppm) ∧
      (¬Reachable freq ppm →
        ∀ progbytes, calculateClockBits freq ppm progbytes = (1, progbytes)) ∧
      (500 ≤ ppm →
        (Reachable freq ppm ↔
          90000000000000 ≤ 8232 * freq * (1000000 + ppm))) := by
  have millionth : ppm ≤ 1000000 := by
    omega
  refine ⟨⟨?_, meetsRequest_of_reachable millionth⟩, ?_, ?_⟩
  · intro meets
    by_contra unreachable
    rcases meets .start with ⟨word, run, _⟩
    rw [calculateClockBits_of_not_reachable millionth unreachable] at run
    have status : (1 : Int) = 0 := (Prod.mk.inj run).1
    exact absurd status (by decide)
  · exact calculateClockBits_of_not_reachable millionth
  · intro coarse
    constructor
    · exact Reachable.low
    · intro low
      exact reachable_of_coarse coarse low high

/-- The clock of the example program is reached exactly. -/
theorem meetsRequest_iff_18MHz :
    MeetsRequest 18432000 10 ∧ ¬Reachable 200 500 := by
  have exact : Reachable 18432000 10 := by
    refine ⟨⟨25, 5, 96⟩, ⟨by decide, ?_, by decide, ?_⟩, ?_⟩
    · exact mem_outDividers.mpr ⟨by decide, by decide, by decide⟩
    · norm_num [Dividers.vco, inputFreq, vcoMax]
    · norm_num [Dividers.error, Dividers.outputFrequency, tolerance, inputFreq]
  constructor
  · exact (meetsRequest_iff (by decide) (by decide)).1.mpr exact
  · intro reachable
    have coarse := (@meetsRequest_iff 200 500 (by decide) (by decide)).2.2
    have low := (coarse (by decide)).mp reachable
    omega

/-- No dividers make 200 Hz. -/
theorem not_coversRange : ¬CoversRange := by
  intro covers
  have unreachable : ¬Reachable 200 10 := by
    intro reachable
    have low := reachable.low
    omega
  have meets := covers 200 10 (by decide) (by decide) (by decide) (by decide)
  rcases meets .start with ⟨word, run, _⟩
  rw [calculateClockBits_of_not_reachable (by decide) unreachable] at run
  have status : (1 : Int) = 0 := (Prod.mk.inj run).1
  exact absurd status (by decide)

end SerialFc.Ics30703
