import SerialFc.Foundation.Bracket
import Mathlib.Algebra.Order.Field.Rat
import Mathlib.Tactic.FieldSimp
import Mathlib.Tactic.Linarith
import Mathlib.Tactic.Positivity

/-! # The clock word of a PCI card

`calculate_clock_bits_335` searches the dividers of the card's clock generator
for the rate closest to the one asked for, and packs them into the word that
the driver shifts out. `unsigned long` is 64 bits; no product of the search
reaches that far, so its variables are natural numbers.
-/

namespace SerialFc

/-! ## Dividers -/

structure Divider where
  vdw : Nat
  rdw : Nat
  od : Nat
  deriving DecidableEq, Repr

def inFreq : Nat := 18432000

namespace Divider

variable (divider : Divider)

/-- The clock that the search calculates: it divides before it multiplies. -/
def check : Nat :=
  inFreq * 2 / ((divider.rdw + 2) * divider.od) * (divider.vdw + 8)

def range1 : Nat := inFreq * 2 * (divider.vdw + 8) / (divider.rdw + 2)

def range2 : Nat := inFreq / (divider.rdw + 2)

def InRange : Prop :=
  divider.range1 > 60000000 ∧ divider.range1 < 360000000 ∧
    divider.range2 > 200000

instance : Decidable divider.InRange := by
  unfold InRange
  infer_instance

/-- Of two dividers for the same clock the one with the lower reference divider
word is taken, then the one with the higher VCO divider word. -/
def prefers (current : Divider) : Bool :=
  decide (current.rdw > divider.rdw) ||
    (decide (current.rdw = divider.rdw) && decide (current.vdw < divider.vdw))

def outputFrequency : ℚ :=
  36864000 * (divider.vdw + 8) / ((divider.rdw + 2) * divider.od)

end Divider

def odSkip (rate od : Nat) : Bool :=
  match od with
  | 2 => decide (rate > 180000000)
  | 3 => decide (rate > 120000000)
  | 4 => decide (rate > 90000000)
  | 5 => decide (rate > 72000000)
  | 6 => decide (rate > 60000000)
  | 7 => decide (rate > 50000000)
  | 8 => decide (rate > 45000000)
  | 10 => decide (rate > 36000000)
  -- Not allowed; the loop steps over it.
  | _ => true

/-! The values of the three loop variables. -/

def outputDividers : List Nat := [2, 3, 4, 5, 6, 7, 8, 10]
def referenceDividerWords : List Nat := List.range' 1 127
def vcoDividerWords : List Nat := List.range' 4 508

/-! ## The search -/

abbrev Search := Bracket Nat Divider

def Search.examine (rate : Nat) (search : Search) (divider : Divider) : Search :=
  if divider.InRange then
    Bracket.consider Divider.check Divider.prefers rate search divider
  else search

def Search.run (rate : Nat) (search : Search) : Search :=
  outputDividers.foldl
    (fun search od =>
      if odSkip rate od then search
      else
        referenceDividerWords.foldl
          (fun search rdw =>
            vcoDividerWords.foldl
              (fun search vdw => search.examine rate ⟨vdw, rdw, od⟩) search)
          search)
    search

/-- The window is computed in 32 bits. -/
def Search.start (rate : BitVec 32) : Search where
  low := (rate - rate / 10).toNat
  hi := (rate + rate / 10).toNat
  lowest := ⟨1, 1, 1⟩
  highest := ⟨1, 1, 1⟩

def Search.best (rate : BitVec 32) (search : Search) : Divider :=
  if BitVec.ofNat 64 search.hi - rate.setWidth 64 <
      rate.setWidth 64 - BitVec.ofNat 64 search.low then
    search.highest
  else search.lowest

def odWord (od : Nat) : Option Nat :=
  match od with
  | 2 => some 0x11
  | 3 => some 0x16
  | 4 => some 0x13
  | 5 => some 0x14
  | 6 => some 0x17
  | 7 => some 0x15
  | 8 => some 0x12
  | 10 => some 0x10
  | _ => none

def packDivider (result : Nat) (best : Divider) : BitVec 32 :=
  BitVec.ofNat 32 ((result <<< 9 ||| best.vdw) <<< 7 ||| best.rdw)

/-- Returns the status and what `*progbytes` then holds. -/
def getIcs30702Data (rate progbytes : BitVec 32) : Int × BitVec 32 :=
  let best := ((Search.start rate).run rate.toNat).best rate
  match odWord best.od with
  | some result => (0, packDivider result best)
  | none => (1, progbytes)

def calculateClockBits335 (freq : BitVec 64) (progbytes : BitVec 32) :
    Int × BitVec 32 :=
  let (t, progbytes) := getIcs30702Data (freq.setWidth 32) progbytes
  (if t = 0 then 0 else 1, progbytes)

/-! ## What the word says -/

def outputDivider (code : BitVec 3) : Nat :=
  match code.toNat with
  | 0 => 10
  | 1 => 2
  | 2 => 8
  | 3 => 4
  | 4 => 5
  | 5 => 7
  | 6 => 3
  | _ => 6

def unpackDivider (word : BitVec 32) : Divider where
  rdw := (word.extractLsb' 0 7).toNat
  vdw := (word.extractLsb' 7 9).toNat
  od := outputDivider (word.extractLsb' 16 3)

/-! ## Candidates -/

structure Divider.Admissible (rate : Nat) (divider : Divider) : Prop where
  vdw : 4 ≤ divider.vdw ∧ divider.vdw ≤ 511
  rdw : 1 ≤ divider.rdw ∧ divider.rdw ≤ 127
  od : divider.od ∈ outputDividers
  notSkipped : odSkip rate divider.od = false
  inRange : divider.InRange

def candidates (rate : Nat) : List Divider :=
  outputDividers.flatMap fun od =>
    if odSkip rate od then []
    else
      referenceDividerWords.flatMap fun rdw =>
        (vcoDividerWords.map fun vdw => ⟨vdw, rdw, od⟩).filter
          (decide <| Divider.InRange ·)

theorem mem_referenceDividerWords {rdw : Nat} :
    rdw ∈ referenceDividerWords ↔ 1 ≤ rdw ∧ rdw ≤ 127 := by
  rw [referenceDividerWords, List.mem_range'_1]
  omega

theorem mem_vcoDividerWords {vdw : Nat} :
    vdw ∈ vcoDividerWords ↔ 4 ≤ vdw ∧ vdw ≤ 511 := by
  rw [vcoDividerWords, List.mem_range'_1]
  omega

theorem mem_candidates {rate : Nat} {divider : Divider} :
    divider ∈ candidates rate ↔ divider.Admissible rate := by
  constructor
  · intro member
    rcases List.mem_flatMap.mp member with ⟨od, isOd, member⟩
    split at member
    case isTrue => cases member
    case isFalse notSkipped =>
      rcases List.mem_flatMap.mp member with ⟨rdw, isRdw, member⟩
      rcases List.mem_filter.mp member with ⟨member, inRange⟩
      rcases List.mem_map.mp member with ⟨vdw, isVdw, rfl⟩
      exact ⟨mem_vcoDividerWords.mp isVdw, mem_referenceDividerWords.mp isRdw,
        isOd, Bool.eq_false_iff.mpr notSkipped, of_decide_eq_true inRange⟩
  · rintro ⟨isVdw, isRdw, isOd, notSkipped, inRange⟩
    rcases divider with ⟨vdw, rdw, od⟩
    apply List.mem_flatMap.mpr
    refine ⟨od, isOd, ?_⟩
    rw [if_neg (Bool.eq_false_iff.mp notSkipped)]
    apply List.mem_flatMap.mpr
    refine ⟨rdw, mem_referenceDividerWords.mpr isRdw, ?_⟩
    apply List.mem_filter.mpr
    refine ⟨List.mem_map.mpr ⟨vdw, mem_vcoDividerWords.mpr isVdw, rfl⟩, ?_⟩
    exact decide_eq_true inRange

theorem run_eq_foldl (rate : Nat) (search : Search) :
    search.run rate =
      (candidates rate).foldl
        (Bracket.consider Divider.check Divider.prefers rate) search := by
  have inner : ∀ (dividers : List Divider) (search : Search),
      dividers.foldl (Search.examine rate) search =
        (dividers.filter (decide <| Divider.InRange ·)).foldl
          (Bracket.consider Divider.check Divider.prefers rate) search := by
    intro dividers search
    rw [List.foldl_filter]
    simp only [decide_eq_true_eq]
    rfl
  have loops : ∀ (search : Search) (od : Nat),
      (if odSkip rate od then search
        else
          referenceDividerWords.foldl
            (fun search rdw =>
              vcoDividerWords.foldl
                (fun search vdw => search.examine rate ⟨vdw, rdw, od⟩) search)
            search) =
        (if odSkip rate od then []
          else
            referenceDividerWords.flatMap fun rdw =>
              (vcoDividerWords.map fun vdw => ⟨vdw, rdw, od⟩).filter
                (decide <| Divider.InRange ·)).foldl
          (Bracket.consider Divider.check Divider.prefers rate) search := by
    intro search od
    split
    · rfl
    · simp only [List.foldl_flatMap, ← inner, List.foldl_map]
  rw [candidates, List.foldl_flatMap, Search.run]
  simp only [loops]

/-! ## The result -/

theorem odWord_of_mem {od : Nat} (isOd : od ∈ outputDividers) :
    ∃ result, odWord od = some result ∧
      outputDivider (BitVec.ofNat 3 result) = od := by
  simp only [outputDividers, List.mem_cons, List.not_mem_nil, or_false] at isOd
  rcases isOd with rfl | rfl | rfl | rfl | rfl | rfl | rfl | rfl <;>
    exact ⟨_, rfl, rfl⟩

theorem pack_eq {result vdw rdw : Nat} (vdwSmall : vdw ≤ 511)
    (rdwSmall : rdw ≤ 127) :
    (result <<< 9 ||| vdw) <<< 7 ||| rdw = result * 65536 + vdw * 128 + rdw := by
  rw [← Nat.shiftLeft_add_eq_or_of_lt (show vdw < 2 ^ 9 by omega),
    ← Nat.shiftLeft_add_eq_or_of_lt (show rdw < 2 ^ 7 by omega),
    Nat.shiftLeft_eq, Nat.shiftLeft_eq]
  omega

theorem toNat_field (word start len : Nat) :
    ((BitVec.ofNat 32 word).extractLsb' start len).toNat =
      word % 2 ^ 32 / 2 ^ start % 2 ^ len := by
  rw [BitVec.extractLsb'_toNat, BitVec.toNat_ofNat, Nat.shiftRight_eq_div_pow]

theorem unpackDivider_pack {best : Divider} {result : Nat}
    (isCode : outputDivider (BitVec.ofNat 3 result) = best.od)
    (vdw : best.vdw ≤ 511) (rdw : best.rdw ≤ 127) :
    unpackDivider (packDivider result best) = best := by
  rcases best with ⟨v, r, od⟩
  have packed : packDivider result ⟨v, r, od⟩ =
      BitVec.ofNat 32 (result * 65536 + v * 128 + r) := by
    rw [packDivider, pack_eq vdw rdw]
  replace vdw : v ≤ 511 := vdw
  replace rdw : r ≤ 127 := rdw
  replace isCode : outputDivider (BitVec.ofNat 3 result) = od := isCode
  have code : (BitVec.ofNat 32 (result * 65536 + v * 128 + r)).extractLsb' 16 3 =
      BitVec.ofNat 3 result := by
    apply BitVec.eq_of_toNat_eq
    rw [toNat_field, BitVec.toNat_ofNat]
    omega
  rw [packed, unpackDivider, code, isCode, toNat_field, toNat_field,
    Divider.mk.injEq]
  omega

/-! ## The closest candidate -/

section Closest

variable {rate : BitVec 32} (small : rate.toNat < 2 ^ 31)
include small

/-- Below half the range of an `unsigned` the window is a tenth of the rate to
either side. -/
theorem start_window :
    (Search.start rate).low = rate.toNat - rate.toNat / 10 ∧
      (Search.start rate).hi = rate.toNat + rate.toNat / 10 := by
  have tenth : (rate / 10).toNat = rate.toNat / 10 := BitVec.toNat_udiv
  refine ⟨?_, ?_⟩
  · change (rate - rate / 10).toNat = _
    rw [BitVec.toNat_sub_of_le (BitVec.le_def.mpr (by omega)), tenth]
  · change (rate + rate / 10).toNat = _
    rw [BitVec.toNat_add_of_lt (by omega), tenth]

theorem best_eq {search : Search} (low : search.low ≤ rate.toNat)
    (hi : rate.toNat < search.hi) (bounded : search.hi < 2 ^ 32) :
    search.best rate =
      if search.hi - rate.toNat < rate.toNat - search.low then search.highest
      else search.lowest := by
  have above : (BitVec.ofNat 64 search.hi - rate.setWidth 64).toNat =
      search.hi - rate.toNat := by
    rw [BitVec.toNat_sub, BitVec.toNat_ofNat, BitVec.toNat_setWidth]
    omega
  have below : (rate.setWidth 64 - BitVec.ofNat 64 search.low).toNat =
      rate.toNat - search.low := by
    rw [BitVec.toNat_sub, BitVec.toNat_ofNat, BitVec.toNat_setWidth]
    omega
  simp only [Search.best, BitVec.lt_def, above, below]

theorem best_closest {divider : Divider}
    (admissible : divider.Admissible rate.toNat)
    (close : ((divider.check : Int) - rate.toNat).natAbs < rate.toNat / 10) :
    (((Search.start rate).run rate.toNat).best rate).Admissible rate.toNat ∧
      ∀ other : Divider, other.Admissible rate.toNat →
        (((((Search.start rate).run rate.toNat).best rate).check : Int) -
            rate.toNat).natAbs ≤
          ((other.check : Int) - rate.toNat).natAbs := by
  have window := start_window small
  have started : Bracket.Encloses Divider.check rate.toNat (Search.start rate)
      (fun _ => False) (Search.start rate) :=
    Bracket.encloses_start _ (by omega) (by omega)
  have encloses := started.foldl Divider.prefers (candidates rate.toNat)
  rw [← run_eq_foldl] at encloses
  generalize (Search.start rate).run rate.toNat = search at encloses ⊢
  have outside : ∀ other : Divider, other.Admissible rate.toNat →
      other.check ≤ search.low ∨ search.hi ≤ other.check :=
    fun other isAdmissible =>
      encloses.outside other (.inr (mem_candidates.mpr isAdmissible))
  have startLow := encloses.startLow
  have startHi := encloses.startHi
  have low := encloses.low
  have hi := encloses.hi
  rw [best_eq small low hi (by omega)]
  by_cases upper : search.hi - rate.toNat < rate.toNat - search.low
  · have found := encloses.highest (by omega)
    rw [if_pos upper, found.2]
    refine ⟨mem_candidates.mp (found.1.resolve_left not_false), ?_⟩
    intro other isAdmissible
    have apart := outside other isAdmissible
    omega
  · -- Otherwise the candidate inside the window would be closer.
    have found := encloses.lowest (by
      have apart := outside divider admissible
      omega)
    rw [if_neg upper, found.2]
    refine ⟨mem_candidates.mp (found.1.resolve_left not_false), ?_⟩
    intro other isAdmissible
    have apart := outside other isAdmissible
    omega

theorem getIcs30702Data_closest (progbytes : BitVec 32) {divider : Divider}
    (admissible : divider.Admissible rate.toNat)
    (close : ((divider.check : Int) - rate.toNat).natAbs < rate.toNat / 10) :
    ∃ word, getIcs30702Data rate progbytes = (0, word) ∧
      (unpackDivider word).Admissible rate.toNat ∧
      ∀ other : Divider, other.Admissible rate.toNat →
        (((unpackDivider word).check : Int) - rate.toNat).natAbs ≤
          ((other.check : Int) - rate.toNat).natAbs := by
  have closest := best_closest small admissible close
  unfold getIcs30702Data
  generalize ((Search.start rate).run rate.toNat).best rate = best at closest ⊢
  rcases odWord_of_mem closest.1.od with ⟨result, isResult, isCode⟩
  refine ⟨packDivider result best, ?_, ?_⟩
  · simp only [isResult]
  · rw [unpackDivider_pack isCode closest.1.vdw.2 closest.1.rdw.2]
    exact closest

end Closest

/-! ## The operating range -/

/-- Dividing first loses less than one step of the VCO divider. -/
theorem outputFrequency_near_check {divider : Divider} (odPos : 0 < divider.od) :
    (divider.check : ℚ) ≤ divider.outputFrequency ∧
      divider.outputFrequency < divider.check + (divider.vdw + 8) := by
  rcases divider with ⟨vdw, rdw, od⟩
  replace odPos : 0 < od := odPos
  have divisorPos : 0 < (rdw + 2) * od := Nat.mul_pos (Nat.succ_pos _) odPos
  have divisorPosRat : (0 : ℚ) < (rdw + 2) * od := by exact_mod_cast divisorPos
  simp only [Divider.check, Divider.outputFrequency, inFreq]
  have floorBelow := Nat.div_mul_le_self (18432000 * 2) ((rdw + 2) * od)
  have floorAbove := Nat.lt_mul_of_div_lt
    (Nat.lt_succ_self (18432000 * 2 / ((rdw + 2) * od))) divisorPos
  generalize 18432000 * 2 / ((rdw + 2) * od) = quotient at floorBelow floorAbove ⊢
  have below : (quotient : ℚ) * ((rdw + 2) * od) ≤ 36864000 := by
    exact_mod_cast floorBelow
  have above : (36864000 : ℚ) < (quotient + 1) * ((rdw + 2) * od) := by
    exact_mod_cast floorAbove
  have stepPos : (0 : ℚ) < vdw + 8 := by positivity
  refine ⟨?_, ?_⟩
  · rw [le_div_iff₀ divisorPosRat]
    push_cast
    nlinarith
  · rw [div_lt_iff₀ divisorPosRat]
    push_cast
    nlinarith

/-- Two grids of dividers cover the operating range: a reference of a tenth of
the input with output divider 10 up to 36 MHz, and with output divider 2 from
there on. -/
theorem exists_close {rate : Nat} (low : 6000000 ≤ rate)
    (high : rate ≤ 180000000) :
    ∃ divider : Divider, divider.Admissible rate ∧
      ((divider.check : Int) - rate).natAbs + 519 ≤ rate / 10 := by
  by_cases slow : rate ≤ 36000000
  · have check : ∀ vdw, Divider.check ⟨vdw, 8, 10⟩ = 368640 * (vdw + 8) := by
      intro vdw
      norm_num [Divider.check, inFreq]
    refine ⟨⟨max 9 (rate / 368640 - 8), 8, 10⟩, ⟨?_, ?_, ?_, ?_, ?_⟩, ?_⟩
    · change 4 ≤ max 9 (rate / 368640 - 8) ∧ max 9 (rate / 368640 - 8) ≤ 511
      omega
    · change 1 ≤ 8 ∧ 8 ≤ 127
      decide
    · change 10 ∈ outputDividers
      decide
    · simpa [odSkip] using slow
    · simp only [Divider.InRange, Divider.range1, Divider.range2, inFreq]
      omega
    · rw [check]
      omega
  · have check : ∀ vdw, Divider.check ⟨vdw, 8, 2⟩ = 1843200 * (vdw + 8) := by
      intro vdw
      norm_num [Divider.check, inFreq]
    refine ⟨⟨rate / 1843200 - 8, 8, 2⟩, ⟨?_, ?_, ?_, ?_, ?_⟩, ?_⟩
    · change 4 ≤ rate / 1843200 - 8 ∧ rate / 1843200 - 8 ≤ 511
      omega
    · change 1 ≤ 8 ∧ 8 ≤ 127
      decide
    · change 2 ∈ outputDividers
      decide
    · simpa [odSkip] using high
    · simp only [Divider.InRange, Divider.range1, Divider.range2, inFreq]
      omega
    · rw [check]
      omega

/-- In the operating range a word is found, and its clock is within ten percent
of the rate. -/
theorem calculateClockBits335_within {freq : BitVec 64}
    (low : 6000000 ≤ freq.toNat) (high : freq.toNat ≤ 180000000)
    (progbytes : BitVec 32) :
    ∃ word, calculateClockBits335 freq progbytes = (0, word) ∧
      |(unpackDivider word).outputFrequency - freq.toNat| ≤ freq.toNat / 10 := by
  have narrowed : (freq.setWidth 32).toNat = freq.toNat := by
    rw [BitVec.toNat_setWidth]
    exact Nat.mod_eq_of_lt (by omega)
  rcases exists_close low high with ⟨divider, admissible, close⟩
  rw [← narrowed] at admissible close
  rcases getIcs30702Data_closest (by omega) progbytes admissible (by omega) with
    ⟨word, run, isAdmissible, closest⟩
  refine ⟨word, ?_, ?_⟩
  · simp [calculateClockBits335, run]
  · have odPos : 0 < (unpackDivider word).od := by
      have positive : ∀ od ∈ outputDividers, 0 < od := by decide
      exact positive _ isAdmissible.od
    have near := outputFrequency_near_check odPos
    have chosen := closest divider admissible
    rw [narrowed] at chosen close
    have vdw := isAdmissible.vdw.2
    generalize unpackDivider word = best at near chosen vdw ⊢
    generalize freq.toNat = rate at chosen close ⊢
    have checkLow : 9 * rate + 5190 ≤ 10 * best.check := by omega
    have checkHigh : 10 * best.check + 5190 ≤ 11 * rate := by omega
    have checkLowRat : 9 * (rate : ℚ) + 5190 ≤ 10 * best.check := by
      exact_mod_cast checkLow
    have checkHighRat : 10 * (best.check : ℚ) + 5190 ≤ 11 * rate := by
      exact_mod_cast checkHigh
    have vdwRat : (best.vdw : ℚ) ≤ 511 := by exact_mod_cast vdw
    rw [abs_le]
    refine ⟨?_, ?_⟩
    · linarith [near.1]
    · linarith [near.2]

theorem calculateClockBits335_within_18MHz :
    ∃ word, calculateClockBits335 18432000 0 = (0, word) ∧
      |(unpackDivider word).outputFrequency - (18432000#64).toNat| ≤
        (18432000#64).toNat / 10 :=
  calculateClockBits335_within (by decide) (by decide) 0

end SerialFc
