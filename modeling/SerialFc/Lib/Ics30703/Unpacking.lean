import SerialFc.Lib.Ics30703.ProgramWord
import Mathlib.Tactic.IntervalCases

/-! # Unpacking the programming word

The dividers that the search can hand to the tables come back out of the word.
Each table is described by the bytes it may change and by what its field then
says.
-/

namespace SerialFc.Ics30703

/-! ## Bytes -/

section Bytes

variable (progdata : ProgData) (index other : Fin 20) (byte : BitVec 8)

@[simp] theorem set_apply :
    progdata.set index byte other = if other = index then byte else progdata other :=
  Function.update_apply ..

@[simp] theorem or_apply :
    progdata.or index byte other =
      if other = index then progdata index ||| byte else progdata other :=
  Function.update_apply ..

@[simp] theorem and_apply :
    progdata.and index byte other =
      if other = index then progdata index &&& byte else progdata other :=
  Function.update_apply ..

end Bytes

def Fills (table : ProgData → Except Int ProgData) (bytes : List (Fin 20))
    (before after : ProgData) : Prop :=
  table before = .ok after ∧ ∀ index, index ∉ bytes → after index = before index

/-! ## Reference divider -/

def refCode (r : Nat) : Nat :=
  if r = 1 then 0
  else if r = 2 then 1
  else if r ≤ 17 then 4 * (17 - r) + 2
  else 4 * (r - 8) + 3

theorem shortCode {r : Nat} (low : 3 ≤ r) (high : r ≤ 17) :
    ((~~~BitVec.ofNat 64 (r - 2) <<< 2).setWidth 8 &&& 0x3e#8 ||| 0x02#8).toNat =
      4 * (17 - r) + 2 := by
  interval_cases r <;> rfl

theorem longCode {r : Nat} (high : r ≤ 1200) :
    let temp := BitVec.ofNat 64 (r - 8) <<< 2
    (temp.setWidth 8 ||| 0x03#8).toNat + 256 * ((temp >>> 8).setWidth 8).toNat =
      4 * (r - 8) + 3 := by
  have lowByte : 4 * ((r - 8) % 64) ||| 3 = 4 * ((r - 8) % 64) + 3 :=
    (@Nat.two_pow_add_eq_or_of_lt 2 3 (by decide) _).symm
  have remainder : (r - 8) % 2 ^ 64 * 2 ^ 2 % 2 ^ 64 % 2 ^ 8 =
      4 * ((r - 8) % 64) := by
    omega
  simp only [BitVec.toNat_or, BitVec.toNat_setWidth, BitVec.toNat_ushiftRight,
    BitVec.toNat_shiftLeft, BitVec.toNat_ofNat, Nat.shiftLeft_eq,
    Nat.shiftRight_eq_div_pow, remainder]
  rw [show 3 % 2 ^ 8 = 3 by decide, lowByte]
  omega

theorem inputDivider_fills {r : Nat} (low : 1 ≤ r) (high : r ≤ 1200)
    {before : ProgData} (zero : before 0 = 0) (one : before 1 = 0) :
    ∃ after, Fills (inputDivider r) [0, 1] before after ∧
      (after 0).toNat + 256 * (after 1).toNat = refCode r := by
  unfold Fills inputDivider refCode
  split
  case isTrue =>
    refine ⟨_, ⟨rfl, ?_⟩, ?_⟩
    · intro index outside
      simp only [List.mem_cons, not_or] at outside
      simp [outside]
    · simp [zero, one]
  case isFalse =>
    split
    case isTrue =>
      refine ⟨_, ⟨rfl, ?_⟩, ?_⟩
      · intro index outside
        simp only [List.mem_cons, not_or] at outside
        simp [outside]
      · simp [zero, one]
    case isFalse =>
      split
      case isTrue short =>
        refine ⟨_, ⟨rfl, ?_⟩, ?_⟩
        · intro index outside
          simp only [List.mem_cons, not_or] at outside
          simp [outside]
        · rw [if_pos short.2, ← shortCode short.1 short.2]
          simp [one]
      case isFalse notShort =>
        rw [if_pos (by omega), if_neg (by omega)]
        refine ⟨_, ⟨rfl, ?_⟩, ?_⟩
        · intro index outside
          simp only [List.mem_cons, not_or] at outside
          simp [outside]
        · rw [← longCode high]
          simp

theorem refCode_lt {r : Nat} (high : r ≤ 1200) : refCode r < 8192 := by
  unfold refCode
  split_ifs <;> omega

/-! ## VCO divider -/

theorem vcoDivider_fills {v : Nat} (low : 12 ≤ v) (high : v ≤ 2055)
    {before : ProgData} (one : (before 1).toNat < 32) (two : before 2 = 0) :
    ∃ after, Fills (vcoDivider v) [1, 2] before after ∧
      (after 1).toNat + 256 * (after 2).toNat =
        (before 1).toNat + 32 * (v - 8) := by
  unfold Fills vcoDivider
  rw [if_pos ⟨low, high⟩]
  refine ⟨_, ⟨rfl, ?_⟩, ?_⟩
  · intro index outside
    simp only [List.mem_cons, not_or] at outside
    simp [outside]
  · have lowByte : (before 1).toNat ||| 32 * ((v - 8) % 8) =
        (before 1).toNat + 32 * ((v - 8) % 8) := by
      rw [Nat.or_comm, Nat.add_comm]
      exact (@Nat.two_pow_add_eq_or_of_lt 5 _ one _).symm
    have remainder : (v - 8) % 2 ^ 64 * 2 ^ 5 % 2 ^ 64 % 2 ^ 8 =
        32 * ((v - 8) % 8) := by
      omega
    have first : (before 1 ||| (BitVec.ofNat 64 (v - 8) <<< 5).setWidth 8).toNat =
        (before 1).toNat + 32 * ((v - 8) % 8) := by
      simp only [BitVec.toNat_or, BitVec.toNat_setWidth, BitVec.toNat_shiftLeft,
        BitVec.toNat_ofNat, Nat.shiftLeft_eq, remainder, lowByte]
    have second : ((BitVec.ofNat 64 (v - 8) <<< 5 >>> 8).setWidth 8).toNat =
        (v - 8) / 8 := by
      simp only [BitVec.toNat_setWidth, BitVec.toNat_ushiftRight,
        BitVec.toNat_shiftLeft, BitVec.toNat_ofNat, Nat.shiftLeft_eq,
        Nat.shiftRight_eq_div_pow]
      omega
    have sum : (before 1).toNat + 32 * ((v - 8) % 8) + 256 * ((v - 8) / 8) =
        (before 1).toNat + 32 * (v - 8) := by
      omega
    rw [← sum, ← first, ← second]
    simp [two]

/-! ## The first three bytes -/

theorem toNat_low (progdata : ProgData) :
    progdata.low.toNat =
      (progdata 0).toNat +
        256 * ((progdata 1).toNat + 256 * (progdata 2).toNat) := by
  have byte0 := (progdata 0).isLt
  have byte1 := (progdata 1).isLt
  rw [ProgData.low, BitVec.toNat_append, BitVec.toNat_append,
    ← Nat.shiftLeft_add_eq_or_of_lt byte1, ← Nat.shiftLeft_add_eq_or_of_lt byte0,
    Nat.shiftLeft_eq, Nat.shiftLeft_eq]
  omega

theorem refDiv_of_low {progdata : ProgData} {r rest : Nat} (low : 1 ≤ r)
    (high : r ≤ 1200) (word : progdata.low.toNat = refCode r + 8192 * rest) :
    progdata.refDiv = r := by
  have form : (progdata.low.extractLsb' 0 2).toNat = refCode r % 4 := by
    rw [BitVec.extractLsb'_toNat, Nat.shiftRight_zero, word]
    omega
  have short : (progdata.low.extractLsb' 2 4).toNat = refCode r / 4 % 16 := by
    rw [BitVec.extractLsb'_toNat, Nat.shiftRight_eq_div_pow, word]
    omega
  have long : (progdata.low.extractLsb' 2 11).toNat = refCode r / 4 % 2048 := by
    rw [BitVec.extractLsb'_toNat, Nat.shiftRight_eq_div_pow, word]
    omega
  unfold ProgData.refDiv
  rw [form, BitVec.toNat_not, short, long]
  unfold refCode
  split_ifs with one two small
  · exact one.symm
  · exact two.symm
  · have isShort : (4 * (17 - r) + 2) % 4 = 2 := by
      omega
    rw [isShort]
    simp only
    omega
  · have isLong : (4 * (r - 8) + 3) % 4 = 3 := by
      omega
    rw [isLong]
    simp only
    omega

theorem vcoDiv_of_low {progdata : ProgData} {v code : Nat} (low : 12 ≤ v)
    (high : v ≤ 2055) (small : code < 8192)
    (word : progdata.low.toNat = code + 8192 * (v - 8)) :
    progdata.vcoDiv = v := by
  rw [ProgData.vcoDiv, BitVec.extractLsb'_toNat, Nat.shiftRight_eq_div_pow, word]
  omega

/-! ## Loop filter -/

theorem loopFilterResistor_fills {rs : Nat} (isResistor : rs ∈ loopResistors)
    (before : ProgData) :
    ∃ after, Fills (loopFilterResistor rs) [11] before after := by
  unfold loopResistors at isResistor
  simp only [List.mem_cons, List.not_mem_nil, or_false] at isResistor
  rcases isResistor with rfl | rfl | rfl | rfl <;>
    · refine ⟨_, rfl, ?_⟩
      intro index outside
      rw [List.mem_singleton] at outside
      simp [outside]

theorem setCurrent_apply (progdata : ProgData) (setMask keepMask : BitVec 8)
    (low high : Bool) {index : Fin 20}
    (outside : index ∉ ([11, 15, 16] : List (Fin 20))) :
    progdata.setCurrent setMask keepMask low high index = progdata index := by
  simp only [List.mem_cons, not_or] at outside
  unfold ProgData.setCurrent
  cases low <;> cases high <;> simp [outside]

theorem chargePump_fills {icpnum : Nat}
    (isCurrent : icpnum ∈ chargePumpCurrents) (before : ProgData) :
    ∃ after, Fills (chargePump icpnum) [11, 15, 16] before after := by
  unfold chargePumpCurrents at isCurrent
  simp only [List.mem_cons, List.not_mem_nil, or_false] at isCurrent
  rcases isCurrent with rfl | rfl | rfl | rfl | rfl | rfl | rfl | rfl | rfl |
      rfl | rfl | rfl | rfl | rfl | rfl | rfl | rfl | rfl | rfl | rfl <;>
    exact ⟨_, rfl, fun _ => setCurrent_apply before _ _ _ _⟩

/-! ## Output divider -/

theorem setOutDivider_fills {before : ProgData} (twelve : before 12 = 0)
    (thirteen : before 13 = 0x40) (odd : Bool) (keepMask setMask : BitVec 8) :
    (∀ index, index ∉ ([11, 12, 13] : List (Fin 20)) →
      before.setOutDivider odd keepMask setMask index = before index) ∧
      (before.setOutDivider odd keepMask setMask).outDiv =
        outDivOf odd (0#6 ++ setMask) := by
  constructor
  · intro index outside
    simp only [List.mem_cons, not_or] at outside
    unfold ProgData.setOutDivider
    cases odd <;> simp [outside]
  · unfold ProgData.setOutDivider ProgData.outDiv ProgData.high
    cases odd <;> simp [twelve, thirteen]

theorem specialOutDivider_fills {before : ProgData} (twelve : before 12 = 0)
    (thirteen : before 13 = 0x40) {od : Nat} (odd : Bool)
    (keepMask setMask : BitVec 8)
    (special : outputDivider od before =
      .ok (before.setOutDivider odd keepMask setMask))
    (code : outDivOf odd (0#6 ++ setMask) = od) :
    ∃ after, Fills (outputDivider od) [11, 12, 13] before after ∧
      after.outDiv = od := by
  have fills := setOutDivider_fills twelve thirteen odd keepMask setMask
  exact ⟨_, ⟨special, fills.1⟩, fills.2.trans code⟩

theorem shortOutDivider_fills {before : ProgData} (thirteen : before 13 = 0x40)
    {od : Nat} (low : 8 ≤ od) (high : od ≤ 37)
    (notSpecial : od ≠ 9 ∧ od ≠ 11 ∧ od ≠ 13) :
    ∃ after, Fills (outputDivider od) [11, 12, 13] before after ∧
      after.outDiv = od := by
  have code : ∀ od < 38, 8 ≤ od →
      outDivOf false
        (0#6 ++
          ((~~~BitVec.ofNat 64 (od - 6) <<< 2).setWidth 8 &&& 0x7f#8 &&& 0xfe#8 |||
            0x02#8)) = od := by
    decide
  unfold Fills outputDivider
  rw [if_pos (by omega)]
  split
  case h_10 =>
    rw [if_pos high]
    refine ⟨_, ⟨rfl, ?_⟩, ?_⟩
    · intro index outside
      simp only [List.mem_cons, not_or] at outside
      simp [outside]
    · refine Eq.trans ?_ (code od (by omega) low)
      simp [ProgData.outDiv, ProgData.high, thirteen]
  all_goals omega

/-! ### The loop -/

theorem exists_form {y scale : Nat} (isBit : y < 2)
    (isPower : scale ∈ [1, 2, 4, 8]) :
    ∃ form ∈ outDividerForms, form.y = y ∧ form.scale = scale := by
  have forms : ∀ y < 2, ∀ scale ∈ [1, 2, 4, 8],
      ∃ form ∈ outDividerForms, form.y = y ∧ form.scale = scale := by
    decide
  exact forms y isBit scale isPower

/-- Every step of the grid is a power of two that leaves at most ten bits. -/
theorem exists_scale {od : Nat} (large : 38 ≤ od) (high : od ≤ 8232)
    (grid : OnGrid od) :
    ∃ scale ∈ [1, 2, 4, 8], od % scale = 0 ∧ 6 ≤ od / scale ∧
      od / scale ≤ 1029 := by
  unfold OnGrid at grid
  by_cases first : od ≤ 1029
  · exact ⟨1, by decide, by omega, by omega, by omega⟩
  · by_cases second : od ≤ 2058
    · exact ⟨2, by decide, by omega, by omega, by omega⟩
    · by_cases third : od ≤ 4116
      · exact ⟨4, by decide, by omega, by omega, by omega⟩
      · exact ⟨8, by decide, by omega, by omega, by omega⟩

theorem matchOutDivider_of_mem {od : Nat} (isOd : od ∈ outDividers)
    (large : 38 ≤ od) :
    ∃ i form, matchOutDivider od = some (i, form) ∧ i < 512 ∧
      form ∈ outDividerForms ∧ od = ((i + 3) * 2 + form.y) * form.scale := by
  have represented : ∃ i < 512, ∃ form ∈ outDividerForms,
      od = ((i + 3) * 2 + form.y) * form.scale := by
    rcases mem_outDividers.mp isOd with ⟨_, high, grid⟩
    rcases exists_scale large high grid with ⟨scale, isPower, whole, low, fits⟩
    rcases exists_form (Nat.mod_lt (od / scale) Nat.zero_lt_two) isPower with
      ⟨form, isForm, y, isScale⟩
    refine ⟨od / scale / 2 - 3, by omega, form, isForm, ?_⟩
    have quotient : (od / scale / 2 - 3 + 3) * 2 + od / scale % 2 = od / scale := by
      omega
    rw [y, isScale, quotient]
    exact (Nat.div_mul_cancel (Nat.dvd_of_mod_eq_zero whole)).symm
  have isSome : (matchOutDivider od).isSome := by
    rcases represented with ⟨i, small, form, isForm, same⟩
    simp only [matchOutDivider, List.findSome?_isSome_iff]
    refine ⟨i, List.mem_range.mpr small, form, isForm, ?_⟩
    rw [if_pos same]
    rfl
  rcases Option.isSome_iff_exists.mp isSome with ⟨⟨i, form⟩, found⟩
  refine ⟨i, form, found, ?_⟩
  rcases List.exists_of_findSome?_eq_some found with ⟨j, isJ, inner⟩
  rcases List.exists_of_findSome?_eq_some inner with ⟨other, isForm, hit⟩
  split at hit
  case isTrue same =>
    rcases Prod.mk.inj (Option.some.inj hit) with ⟨rfl, rfl⟩
    exact ⟨List.mem_range.mp isJ, isForm, same⟩
  case isFalse => cases hit

theorem outDivOf_long {high : BitVec 14} {x y z : Nat} (xSmall : x < 512)
    (ySmall : y < 2) (zSmall : z < 4)
    (word : high.toNat = 32 * x + 8 * z + 4 * (1 - y) + 2) :
    outDivOf true high = (2 * x + 6 + y) * 2 ^ z := by
  have form : (high.extractLsb' 0 2).toNat = 2 := by
    rw [BitVec.extractLsb'_toNat, Nat.shiftRight_zero, word]
    omega
  have xBits : (high.extractLsb' 5 9).toNat = x := by
    rw [BitVec.extractLsb'_toNat, Nat.shiftRight_eq_div_pow, word]
    omega
  have yBit : (high.extractLsb' 2 1).toNat = 1 - y := by
    rw [BitVec.extractLsb'_toNat, Nat.shiftRight_eq_div_pow, word]
    omega
  have zBits : (high.extractLsb' 3 2).toNat = z := by
    rw [BitVec.extractLsb'_toNat, Nat.shiftRight_eq_div_pow, word]
    omega
  have yValue : 2 ^ 1 - 1 - (1 - y) = y := by
    omega
  simp only [outDivOf, form, xBits, BitVec.toNat_not, yBit, zBits, yValue]

theorem form_byte {low : Nat} (small : low < 8) {form : OutDividerForm}
    (isForm : form ∈ outDividerForms) :
    ∃ z < 4, form.y < 2 ∧ form.scale = 2 ^ z ∧
      ((BitVec.ofNat 8 (32 * low) &&& form.keepMask ||| form.setMask) &&& 0xfe#8 |||
        0x02#8).toNat = 32 * low + 8 * z + 4 * (1 - form.y) + 2 := by
  have forms : ∀ low < 8, ∀ form ∈ outDividerForms,
      ∃ z < 4, form.y < 2 ∧ form.scale = 2 ^ z ∧
        ((BitVec.ofNat 8 (32 * low) &&& form.keepMask ||| form.setMask) &&&
          0xfe#8 ||| 0x02#8).toNat = 32 * low + 8 * z + 4 * (1 - form.y) + 2 := by
    decide
  exact forms low small form isForm

theorem form_word {i : Nat} (small : i < 512) {form : OutDividerForm}
    (isForm : form ∈ outDividerForms) :
    let temp := BitVec.ofNat 64 i <<< 5
    outDivOf true
        ((0x40#8 ||| (temp >>> 8).setWidth 8).setWidth 6 ++
          ((temp.setWidth 8 &&& form.keepMask ||| form.setMask) &&& 0xfe#8 |||
            0x02#8)) =
      ((i + 3) * 2 + form.y) * form.scale := by
  intro temp
  rcases form_byte (Nat.mod_lt i (by decide : 8 > 0)) isForm with
    ⟨z, zSmall, ySmall, isScale, byte⟩
  have lowByte : temp.setWidth 8 = BitVec.ofNat 8 (32 * (i % 8)) := by
    apply BitVec.eq_of_toNat_eq
    simp only [temp, BitVec.toNat_setWidth, BitVec.toNat_shiftLeft,
      BitVec.toNat_ofNat, Nat.shiftLeft_eq]
    omega
  have highBits : ((0x40#8 ||| (temp >>> 8).setWidth 8).setWidth 6).toNat =
      i / 8 := by
    have fits : 0x40 ||| i / 8 = 64 + i / 8 :=
      (@Nat.two_pow_add_eq_or_of_lt 6 (i / 8) (by omega) 1).symm
    have quotient : i % 2 ^ 64 * 2 ^ 5 % 2 ^ 64 / 2 ^ 8 % 2 ^ 8 = i / 8 := by
      omega
    simp only [temp, BitVec.toNat_setWidth, BitVec.toNat_or,
      BitVec.toNat_ushiftRight, BitVec.toNat_shiftLeft, BitVec.toNat_ofNat,
      Nat.shiftLeft_eq, Nat.shiftRight_eq_div_pow, quotient]
    rw [show 0x40 % 2 ^ 8 = 0x40 by decide, fits]
    omega
  have value : (2 * i + 6 + form.y) * 2 ^ z =
      ((i + 3) * 2 + form.y) * form.scale := by
    rw [isScale]
    ring
  rw [← value]
  apply outDivOf_long small ySmall zSmall
  rw [lowByte, BitVec.toNat_append, highBits,
    ← Nat.shiftLeft_add_eq_or_of_lt (BitVec.isLt _), byte, Nat.shiftLeft_eq]
  omega

theorem longOutDivider_fills {before : ProgData} (twelve : before 12 = 0)
    (thirteen : before 13 = 0x40) {od : Nat} (isOd : od ∈ outDividers)
    (large : 38 ≤ od) :
    ∃ after, Fills (outputDivider od) [11, 12, 13] before after ∧
      after.outDiv = od := by
  rcases matchOutDivider_of_mem isOd large with
    ⟨i, form, found, small, isForm, same⟩
  have range := mem_outDividers.mp isOd
  have word := form_word small isForm
  rw [← same] at word
  unfold Fills outputDivider
  rw [if_pos ⟨range.1, range.2.1⟩]
  split
  case h_10 =>
    rw [if_neg (by omega), found]
    refine ⟨_, ⟨rfl, ?_⟩, ?_⟩
    · intro index outside
      simp only [List.mem_cons, not_or] at outside
      simp [ProgData.setForm, outside]
    · refine Eq.trans ?_ word
      simp [ProgData.outDiv, ProgData.high, ProgData.setForm, twelve, thirteen]
  all_goals omega

theorem outputDivider_fills {od : Nat} (isOd : od ∈ outDividers)
    {before : ProgData} (twelve : before 12 = 0) (thirteen : before 13 = 0x40) :
    ∃ after, Fills (outputDivider od) [11, 12, 13] before after ∧
      after.outDiv = od := by
  by_cases large : 38 ≤ od
  · exact longOutDivider_fills twelve thirteen isOd large
  · by_cases special : od ∈ [2, 3, 4, 5, 6, 7, 9, 11, 13]
    · simp only [List.mem_cons, List.not_mem_nil, or_false] at special
      rcases special with rfl | rfl | rfl | rfl | rfl | rfl | rfl | rfl | rfl
      all_goals exact specialOutDivider_fills twelve thirteen _ _ _ rfl rfl
    · have low := (mem_outDividers.mp isOd).1
      simp only [List.mem_cons, List.not_mem_nil, or_false, not_or] at special
      exact shortOutDivider_fills thirteen (by omega) (by omega) (by omega)

/-! ## The whole word -/

structure Tables (theOne : ResultStruct) (theOther : IcpRsStruct)
    (afterInput afterVco afterResistor afterCurrent word : ProgData) :
    Prop where
  input : Fills (inputDivider theOne.refDiv) [0, 1] .start afterInput
  vco : Fills (vcoDivider theOne.vcoDiv) [1, 2] afterInput afterVco
  resistor : Fills (loopFilterResistor theOther.rs) [11] afterVco afterResistor
  current :
    Fills (chargePump theOther.icpnum) [11, 15, 16] afterResistor afterCurrent
  output : Fills (outputDivider theOne.outDiv) [11, 12, 13] afterCurrent word

section Tables

variable {theOne : ResultStruct} {theOther : IcpRsStruct}
  {afterInput afterVco afterResistor afterCurrent word : ProgData}

theorem Tables.packs (tables : Tables theOne theOther afterInput afterVco
    afterResistor afterCurrent word) :
    packDividers theOne theOther = .ok word := by
  unfold packDividers
  rw [tables.input.1]
  change (vcoDivider theOne.vcoDiv afterInput >>= _) = _
  rw [tables.vco.1]
  change (loopFilterResistor theOther.rs afterVco >>= _) = _
  rw [tables.resistor.1]
  change (chargePump theOther.icpnum afterResistor >>= _) = _
  rw [tables.current.1]
  exact tables.output.1

theorem Tables.low (tables : Tables theOne theOther afterInput afterVco
    afterResistor afterCurrent word) {index : Fin 20}
    (inside : index ∈ ([0, 1, 2] : List (Fin 20))) :
    word index = afterVco index := by
  simp only [List.mem_cons, List.not_mem_nil, or_false] at inside
  rcases inside with rfl | rfl | rfl
  all_goals
    rw [tables.output.2 _ (by decide), tables.current.2 _ (by decide),
      tables.resistor.2 _ (by decide)]

theorem exists_tables (r : 1 ≤ theOne.refDiv ∧ theOne.refDiv ≤ 1200)
    (v : 12 ≤ theOne.vcoDiv ∧ theOne.vcoDiv ≤ 2055)
    (od : theOne.outDiv ∈ outDividers) (rs : theOther.rs ∈ loopResistors)
    (icpnum : theOther.icpnum ∈ chargePumpCurrents) :
    ∃ afterInput afterVco afterResistor afterCurrent word,
      Tables theOne theOther afterInput afterVco afterResistor afterCurrent
          word ∧
        word.refDiv = theOne.refDiv ∧ word.vcoDiv = theOne.vcoDiv ∧
        word.outDiv = theOne.outDiv := by
  rcases @inputDivider_fills _ r.1 r.2 .start rfl rfl with
    ⟨afterInput, input, code⟩
  have small := refCode_lt r.2
  rcases @vcoDivider_fills _ v.1 v.2 afterInput (by omega) (input.2 2 (by
      decide)) with
    ⟨afterVco, vco, sum⟩
  rcases loopFilterResistor_fills rs afterVco with ⟨afterResistor, resistor⟩
  rcases chargePump_fills icpnum afterResistor with ⟨afterCurrent, current⟩
  have beforeLast : ∀ index, index ∉ ([0, 1, 2, 11, 15, 16] : List (Fin 20)) →
      afterCurrent index = ProgData.start index := by
    intro index outside
    simp only [List.mem_cons, not_or] at outside
    rw [current.2 index (by simp [outside]), resistor.2 index (by simp [outside]),
      vco.2 index (by simp [outside]), input.2 index (by simp [outside])]
  rcases @outputDivider_fills _ od afterCurrent (beforeLast 12 (by decide))
      (beforeLast 13 (by decide)) with
    ⟨word, output, outDiv⟩
  have tables : Tables theOne theOther afterInput afterVco afterResistor
      afterCurrent word := ⟨input, vco, resistor, current, output⟩
  have low : word.low.toNat =
      refCode theOne.refDiv + 8192 * (theOne.vcoDiv - 8) := by
    rw [toNat_low, tables.low (by decide : (0 : Fin 20) ∈ _),
      tables.low (by decide : (1 : Fin 20) ∈ _),
      tables.low (by decide : (2 : Fin 20) ∈ _), sum, vco.2 0 (by decide)]
    omega
  exact ⟨afterInput, afterVco, afterResistor, afterCurrent, word, tables,
    refDiv_of_low r.1 r.2 low, vcoDiv_of_low v.1 v.2 small low, outDiv⟩

theorem packDividers_unpacks (r : 1 ≤ theOne.refDiv ∧ theOne.refDiv ≤ 1200)
    (v : 12 ≤ theOne.vcoDiv ∧ theOne.vcoDiv ≤ 2055)
    (od : theOne.outDiv ∈ outDividers) (rs : theOther.rs ∈ loopResistors)
    (icpnum : theOther.icpnum ∈ chargePumpCurrents) :
    ∃ progdata, packDividers theOne theOther = .ok progdata ∧
      progdata.refDiv = theOne.refDiv ∧ progdata.vcoDiv = theOne.vcoDiv ∧
      progdata.outDiv = theOne.outDiv := by
  rcases exists_tables r v od rs icpnum with
    ⟨_, _, _, _, word, tables, refDiv, vcoDiv, outDiv⟩
  exact ⟨word, tables.packs, refDiv, vcoDiv, outDiv⟩

end Tables

end SerialFc.Ics30703
