import SerialFc.Lib.ClockBits335

/-! # What the divider search finds

Of all dividers that it considers, the search takes the one whose calculated
clock is closest to the rate, if any is within a tenth of it.
-/

namespace SerialFc

namespace Divider

def distance (rate : Nat) (divider : Divider) : Nat :=
  ((divider.check : Int) - rate).natAbs

/-- The divider that is taken: the closest, rather not above the rate, and of
those with one calculated clock the one with the lowest reference divider word,
then the highest VCO divider word. -/
structure Best (rate : Nat) (best : Divider) : Prop where
  admissible : best.Admissible rate
  closest : ∀ other : Divider, other.Admissible rate →
    best.distance rate ≤ other.distance rate
  notAbove : ∀ other : Divider, other.Admissible rate →
    other.distance rate = best.distance rate → other.check ≤ rate →
    best.check ≤ rate
  preferred : ∀ other : Divider, other.Admissible rate →
    other.check = best.check →
    best.rdw < other.rdw ∨ best.rdw = other.rdw ∧ other.vdw ≤ best.vdw

end Divider

/-- Some divider is within the window: strictly, or at its lower end with a
reference divider word of one, as the search starts with. -/
def Reached (rate : Nat) : Prop :=
  ∃ divider : Divider, divider.Admissible rate ∧
    (divider.distance rate < rate / 10 ∨
      divider.rdw = 1 ∧ divider.check + rate / 10 = rate)

/-! ## Dividers -/

namespace Divider

variable {rate : Nat} {divider other : Divider}

theorem prefers_eq_true_iff :
    divider.prefers other = true ↔
      divider.rdw < other.rdw ∨
        other.rdw = divider.rdw ∧ other.vdw < divider.vdw := by
  simp [prefers]

theorem prefers_sentinel_iff :
    divider.prefers ⟨1, 1, 1⟩ = true ↔
      divider.rdw < 1 ∨ 1 = divider.rdw ∧ 1 < divider.vdw :=
  prefers_eq_true_iff

theorem preference : Bracket.Preference prefers where
  irrefl divider := by
    rw [Bool.eq_false_iff, ne_eq, prefers_eq_true_iff]
    omega
  trans first second third := by
    simp only [prefers_eq_true_iff]
    omega

theorem Admissible.rate_le (admissible : divider.Admissible rate) :
    rate ≤ 180000000 := by
  have notSkipped := admissible.notSkipped
  have isOd := admissible.od
  simp only [outputDividers, List.mem_cons, List.not_mem_nil, or_false] at isOd
  rcases isOd with equal | equal | equal | equal | equal | equal | equal | equal <;>
    rw [equal] at notSkipped <;>
    simp only [odSkip, decide_eq_false_iff_not] at notSkipped <;>
    omega

theorem Admissible.od_range (admissible : divider.Admissible rate) :
    2 ≤ divider.od ∧ divider.od ≤ 10 := by
  have range : ∀ od ∈ outputDividers, 2 ≤ od ∧ od ≤ 10 := by decide
  exact range _ admissible.od

theorem Admissible.rdw_le (admissible : divider.Admissible rate) :
    divider.rdw + 2 ≤ 92 := by
  have reference := admissible.inRange.2.2
  by_contra large
  have bound : inFreq / (divider.rdw + 2) ≤ inFreq / 93 :=
    Nat.div_le_div_left (by omega) (by decide)
  have least : inFreq / 93 = 198193 := by decide
  unfold range2 at reference
  omega

theorem Admissible.check_ge (admissible : divider.Admissible rate) :
    480828 ≤ divider.check := by
  have product : (divider.rdw + 2) * divider.od ≤ 92 * 10 :=
    Nat.mul_le_mul admissible.rdw_le admissible.od_range.2
  have positive : 0 < (divider.rdw + 2) * divider.od :=
    Nat.mul_pos (by omega) (by have := admissible.od_range; omega)
  have step : inFreq * 2 / (92 * 10) ≤
      inFreq * 2 / ((divider.rdw + 2) * divider.od) :=
    Nat.div_le_div_left product positive
  have vdw : 12 ≤ divider.vdw + 8 := by
    have := admissible.vdw
    omega
  exact Nat.mul_le_mul (Nat.le_trans (by decide : 40069 ≤ _) step) vdw

theorem not_admissible_sentinel : ¬Admissible rate ⟨1, 1, 1⟩ := by
  intro admissible
  have tooSmall := admissible.vdw.1
  change 4 ≤ 1 at tooSmall
  omega

end Divider

/-! ## Rates without a divider -/

theorem not_reached_of_small {rate : Nat} (small : rate < 10) : ¬Reached rate := by
  rintro ⟨divider, admissible, close | ⟨_, atLow⟩⟩
  · omega
  · have large := admissible.check_ge
    omega

theorem not_reached_of_large {rate : Nat} (large : 180000000 < rate) :
    ¬Reached rate := by
  rintro ⟨divider, admissible, _⟩
  have bounded := admissible.rate_le
  omega

theorem best_start (rate : BitVec 32) :
    (Search.start rate).best rate = ⟨1, 1, 1⟩ := by
  unfold Search.best Search.start
  split <;> rfl

theorem best_of_small {rate : BitVec 32} (small : rate.toNat < 10) :
    ((Search.start rate).run rate.toNat).best rate = ⟨1, 1, 1⟩ := by
  have window := @start_window rate (by omega)
  have beyond : ∀ divider ∈ candidates rate.toNat,
      (Search.start rate).low < divider.check ∧
        (Search.start rate).hi < divider.check := by
    intro divider member
    have large := (mem_candidates.mp member).check_ge
    omega
  rw [run_eq_foldl, Bracket.foldl_consider_eq_self beyond, best_start]

/-- Above 180 MHz every output divider is skipped. -/
theorem best_of_large {rate : BitVec 32} (large : 180000000 < rate.toNat) :
    ((Search.start rate).run rate.toNat).best rate = ⟨1, 1, 1⟩ := by
  have none : candidates rate.toNat = [] := by
    apply List.eq_nil_iff_forall_not_mem.mpr
    intro divider member
    have bounded := (mem_candidates.mp member).rate_le
    omega
  rw [run_eq_foldl, none, List.foldl_nil, best_start]

/-! ## The bracket in the end -/

section Found

variable {rate : BitVec 32} {search : Search}

structure Search.Finished (rate : BitVec 32) (search : Search) : Prop where
  encloses : Bracket.Encloses Divider.check rate.toNat (Search.start rate)
    (Divider.Admissible rate.toNat) search
  settles : Bracket.Settles Divider.check Divider.prefers (Search.start rate)
    (Divider.Admissible rate.toNat) search
  startLow : (Search.start rate).low = rate.toNat - rate.toNat / 10
  startHi : (Search.start rate).hi = rate.toNat + rate.toNat / 10

theorem finished_run (low : 10 ≤ rate.toNat) (high : rate.toNat ≤ 180000000) :
    Search.Finished rate ((Search.start rate).run rate.toNat) := by
  have window := @start_window rate (by omega)
  have started : Bracket.Encloses Divider.check rate.toNat (Search.start rate)
      (fun _ => False) (Search.start rate) :=
    Bracket.encloses_start _ (by omega) (by omega)
  have settled := Bracket.settles_start Divider.check Divider.prefers
    (Search.start rate)
  have seen : (fun divider => False ∨ divider ∈ candidates rate.toNat) =
      Divider.Admissible rate.toNat := by
    funext divider
    rw [false_or, mem_candidates]
  have encloses := started.foldl Divider.prefers (candidates rate.toNat)
  have settles := settled.foldl Divider.preference started
    (candidates rate.toNat)
  rw [seen, ← run_eq_foldl] at encloses settles
  exact ⟨encloses, settles, window.1, window.2⟩

namespace Search.Finished

variable (finished : Search.Finished rate search)
include finished

theorem best_upper
    (upper : search.hi - rate.toNat < rate.toNat - search.low) :
    search.highest.Best rate.toNat ∧
      search.highest.distance rate.toNat < rate.toNat / 10 := by
  have startLow := finished.encloses.startLow
  have hi := finished.encloses.hi
  have lowEq := finished.startLow
  have hiEq := finished.startHi
  have found := finished.encloses.highest (by omega)
  have outside := finished.encloses.outside
  refine ⟨⟨found.1, ?_, ?_, ?_⟩, ?_⟩
  · intro other admissible
    have apart := outside other admissible
    unfold Divider.distance
    omega
  · intro other admissible equal below
    have apart := outside other admissible
    unfold Divider.distance at equal
    omega
  · intro other admissible equal
    have notPreferred := finished.settles.hi.ties other admissible
      (equal.trans found.2)
    rw [Bool.eq_false_iff, ne_eq, Divider.prefers_eq_true_iff] at notPreferred
    omega
  · unfold Divider.distance
    omega

theorem best_lower
    (notUpper : ¬search.hi - rate.toNat < rate.toNat - search.low)
    (admissible : search.lowest.Admissible rate.toNat)
    (measured : search.lowest.check = search.low) :
    search.lowest.Best rate.toNat ∧
      search.lowest.distance rate.toNat ≤ rate.toNat / 10 := by
  have startLow := finished.encloses.startLow
  have low := finished.encloses.low
  have lowEq := finished.startLow
  have outside := finished.encloses.outside
  refine ⟨⟨admissible, ?_, ?_, ?_⟩, ?_⟩
  · intro other isAdmissible
    have apart := outside other isAdmissible
    unfold Divider.distance
    omega
  · intro other _ _ _
    omega
  · intro other isAdmissible equal
    have notPreferred := finished.settles.low.ties other isAdmissible
      (equal.trans measured)
    rw [Bool.eq_false_iff, ne_eq, Divider.prefers_eq_true_iff] at notPreferred
    omega
  · unfold Divider.distance
    omega

theorem not_reached
    (notUpper : ¬search.hi - rate.toNat < rate.toNat - search.low)
    (sentinel : search.lowest = ⟨1, 1, 1⟩) : ¬Reached rate.toNat := by
  have startHi := finished.encloses.startHi
  have hi := finished.encloses.hi
  have lowEq := finished.startLow
  have hiEq := finished.startHi
  have startLow := finished.encloses.startLow
  have notMoved : search.low = (Search.start rate).low := by
    by_contra moved
    have found := finished.encloses.lowest (by omega)
    rw [sentinel] at found
    exact Divider.not_admissible_sentinel found.1
  rintro ⟨divider, admissible, close | ⟨one, atLow⟩⟩
  · have apart := finished.encloses.outside divider admissible
    unfold Divider.distance at close
    omega
  · have notPreferred := finished.settles.low.ties divider admissible
      (by omega)
    have vdw := admissible.vdw
    rw [sentinel, Bool.eq_false_iff, ne_eq, Divider.prefers_sentinel_iff]
      at notPreferred
    omega

theorem reached
    (admissible : search.lowest.Admissible rate.toNat)
    (measured : search.lowest.check = search.low)
    (preferred : search.low = (Search.start rate).low →
      search.lowest.prefers ⟨1, 1, 1⟩ = true) : Reached rate.toNat := by
  have startLow := finished.encloses.startLow
  have low := finished.encloses.low
  have lowEq := finished.startLow
  refine ⟨search.lowest, admissible, ?_⟩
  by_cases atStart : search.low = (Search.start rate).low
  · have isPreferred := preferred atStart
    have rdw := admissible.rdw
    rw [Divider.prefers_sentinel_iff] at isPreferred
    refine .inr ⟨?_, ?_⟩
    · omega
    · omega
  · left
    unfold Divider.distance
    omega

end Search.Finished

end Found

/-! ## The result -/

theorem search_best (rate : BitVec 32) :
    let best := ((Search.start rate).run rate.toNat).best rate
    Reached rate.toNat ∧ best.Best rate.toNat ∧
        best.distance rate.toNat ≤ rate.toNat / 10 ∨
      ¬Reached rate.toNat ∧ best = ⟨1, 1, 1⟩ := by
  intro best
  by_cases small : rate.toNat < 10
  · exact .inr ⟨not_reached_of_small small, best_of_small small⟩
  by_cases large : 180000000 < rate.toNat
  · exact .inr ⟨not_reached_of_large large, best_of_large large⟩
  have finished := @finished_run rate (by omega) (by omega)
  have startHi := finished.encloses.startHi
  have hiEq := finished.startHi
  have bestEq := @best_eq rate (by omega) _ finished.encloses.low
    finished.encloses.hi (by omega)
  change best = _ at bestEq
  generalize (Search.start rate).run rate.toNat = search at finished bestEq
  rw [bestEq]
  by_cases upper : search.hi - rate.toNat < rate.toNat - search.low
  · have isBest := finished.best_upper upper
    rw [if_pos upper]
    exact .inl ⟨⟨_, isBest.1.admissible, .inl isBest.2⟩, isBest.1, isBest.2.le⟩
  · rw [if_neg upper]
    rcases finished.settles.low.found with
      sentinel | ⟨admissible, measured, preferred⟩
    · exact .inr ⟨finished.not_reached upper sentinel, sentinel⟩
    · have isBest := finished.best_lower upper admissible measured
      exact .inl ⟨finished.reached admissible measured preferred, isBest⟩

theorem getIcs30702Data_cases (rate progbytes : BitVec 32) :
    (Reached rate.toNat ∧ ∃ best code, odWord best.od = some code ∧
        getIcs30702Data rate progbytes = (0, packDivider code best) ∧
        unpackDivider (packDivider code best) = best ∧
        best.Best rate.toNat ∧ best.distance rate.toNat ≤ rate.toNat / 10) ∨
      ¬Reached rate.toNat ∧ getIcs30702Data rate progbytes = (1, progbytes) := by
  have found := search_best rate
  unfold getIcs30702Data
  generalize ((Search.start rate).run rate.toNat).best rate = best at found ⊢
  rcases found with ⟨reached, isBest, near⟩ | ⟨notReached, sentinel⟩
  · have admissible := isBest.admissible
    rcases odWord_of_mem admissible.od with ⟨code, isWord, isCode⟩
    refine .inl ⟨reached, best, code, isWord, ?_, ?_, isBest, near⟩
    · simp only [isWord]
    · exact unpackDivider_pack isCode admissible.vdw.2 admissible.rdw.2
  · rw [sentinel]
    exact .inr ⟨notReached, rfl⟩

/-- If some divider is strictly within a tenth of the rate the best one is
packed; if the function fails there is none. -/
theorem getIcs30702Data_optimal (rate progbytes : BitVec 32) :
    ((∃ divider : Divider, divider.Admissible rate.toNat ∧
        divider.distance rate.toNat < rate.toNat / 10) →
      ∃ best code, odWord best.od = some code ∧
        getIcs30702Data rate progbytes = (0, packDivider code best) ∧
        unpackDivider (packDivider code best) = best ∧
        best.Best rate.toNat) ∧
      ((getIcs30702Data rate progbytes).1 = 1 →
        (getIcs30702Data rate progbytes).2 = progbytes ∧
        ∀ divider : Divider, divider.Admissible rate.toNat →
          rate.toNat / 10 ≤ divider.distance rate.toNat) := by
  rcases getIcs30702Data_cases rate progbytes with
    ⟨reached, best, code, isWord, run, unpacked, isBest, near⟩ |
      ⟨notReached, run⟩
  · refine ⟨fun _ => ⟨best, code, isWord, run, unpacked, isBest⟩, ?_⟩
    intro failed
    rw [run] at failed
    cases failed
  · refine ⟨?_, ?_⟩
    · rintro ⟨divider, admissible, close⟩
      exact absurd ⟨divider, admissible, .inl close⟩ notReached
    · intro _
      rw [run]
      refine ⟨rfl, ?_⟩
      intro divider admissible
      by_contra close
      exact notReached ⟨divider, admissible, .inl (Nat.lt_of_not_le close)⟩

/-! ## The 64-bit request -/

/-- A word is written only if it is right for the request, and otherwise the
call fails and leaves the word alone. -/
def AnswersRequest (freq : BitVec 64) (progbytes : BitVec 32) : Prop :=
  (∃ word, calculateClockBits335 freq progbytes = (0, word) ∧
      (unpackDivider word).InRange ∧
      10 * (unpackDivider word).distance freq.toNat ≤ freq.toNat) ∨
    calculateClockBits335 freq progbytes = (1, progbytes)

theorem not_answersRequest_of_wide {freq : BitVec 64} (wide : 2 ^ 32 ≤ freq.toNat)
    (reached : Reached (freq.toNat % 2 ^ 32)) (progbytes : BitVec 32) :
    ¬AnswersRequest freq progbytes := by
  have narrowed : (freq.setWidth 32).toNat = freq.toNat % 2 ^ 32 :=
    BitVec.toNat_setWidth 32 freq
  rw [← narrowed] at reached
  rcases getIcs30702Data_cases (freq.setWidth 32) progbytes with
    ⟨_, best, code, isWord, run, unpacked, isBest, near⟩ | ⟨notReached, _⟩
  · have result : calculateClockBits335 freq progbytes =
        (0, packDivider code best) := by
      simp [calculateClockBits335, run]
    have bounded := isBest.admissible.rate_le
    rw [AnswersRequest, result]
    rintro (⟨word, isResult, _, close⟩ | failed)
    · rcases Prod.mk.inj isResult with ⟨_, rfl⟩
      rw [unpacked] at close
      unfold Divider.distance at close near
      omega
    · have status : (0 : Int) = 1 := (Prod.mk.inj failed).1
      exact absurd status (by decide)
  · exact absurd reached notReached

/-- The request is narrowed to 32 bits: that is right for requests that fit,
and for those whose low half has no divider anyway. -/
theorem answersRequest_iff (freq : BitVec 64) (progbytes : BitVec 32) :
    AnswersRequest freq progbytes ↔
      freq.toNat < 2 ^ 32 ∨ ¬Reached (freq.toNat % 2 ^ 32) := by
  have narrowed : (freq.setWidth 32).toNat = freq.toNat % 2 ^ 32 :=
    BitVec.toNat_setWidth 32 freq
  constructor
  · intro answers
    by_contra neither
    rw [not_or, not_not] at neither
    exact not_answersRequest_of_wide (Nat.le_of_not_lt neither.1) neither.2
      progbytes answers
  · intro holds
    rcases getIcs30702Data_cases (freq.setWidth 32) progbytes with
      ⟨reached, best, code, isWord, run, unpacked, isBest, near⟩ |
        ⟨_, run⟩
    · rw [narrowed] at reached near
      have fits := holds.resolve_right (not_not.mpr reached)
      rw [Nat.mod_eq_of_lt fits] at near
      refine .inl ⟨packDivider code best, ?_, ?_⟩
      · simp [calculateClockBits335, run]
      · rw [unpacked]
        refine ⟨isBest.admissible.inRange, ?_⟩
        omega
    · exact .inr (by simp [calculateClockBits335, run])

/-- A request of 2^32 Hz more than the input clock gets the word for the input
clock. -/
theorem not_answersRequest_4313MHz : ¬AnswersRequest 4313399296 0 := by
  apply not_answersRequest_of_wide (by decide)
  rcases @exists_close 18432000 (by decide) (by decide) with
    ⟨divider, admissible, close⟩
  refine ⟨divider, admissible, .inl ?_⟩
  change ((divider.check : Int) - (18432000 : Nat)).natAbs < 18432000 / 10
  omega

end SerialFc
