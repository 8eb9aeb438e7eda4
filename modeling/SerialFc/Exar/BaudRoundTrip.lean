import SerialFc.Exar.BaudRate
import Mathlib.Tactic.IntervalCases
import Mathlib.Tactic.Ring

/-! # Setting the baud rate that was read

Reading the rate divides by the latched divisor and rounds down; setting it
divides by the rate and rounds down again. The divisor comes back if it was the
quotient of some rate in the first place, or if the rate is too high to be set.
-/

namespace SerialFc

/-! ## Quotients of quotients -/

section Quotients

variable {dividend divisor step : Nat} (divisorPos : 0 < divisor)
  (stepPos : 0 < step) (fits : divisor * step ≤ dividend)
include divisorPos stepPos fits

theorem quotient_pos : 0 < dividend / divisor / step := by
  rw [Nat.div_div_eq_div_mul]
  exact Nat.div_pos fits (Nat.mul_pos divisorPos stepPos)

theorem le_div_quotient :
    divisor ≤ dividend / (dividend / divisor / step * step) := by
  have quotientPos := quotient_pos divisorPos stepPos fits
  rw [Nat.le_div_iff_mul_le (Nat.mul_pos quotientPos stepPos), Nat.mul_comm]
  have whole := Nat.div_mul_le_self (dividend / divisor) step
  calc
    dividend / divisor / step * step * divisor ≤
        dividend / divisor * divisor := Nat.mul_le_mul_right divisor whole
    _ ≤ dividend := Nat.div_mul_le_self dividend divisor

theorem div_quotient_lt :
    dividend / (dividend / divisor / step * step) < 2 * divisor := by
  have quotientPos := quotient_pos divisorPos stepPos fits
  rw [Nat.div_lt_iff_lt_mul (Nat.mul_pos quotientPos stepPos)]
  have isQuotient : dividend / divisor / step = dividend / (divisor * step) :=
    Nat.div_div_eq_div_mul dividend divisor step
  have next := Nat.lt_mul_div_succ dividend (Nat.mul_pos divisorPos stepPos)
  rw [← isQuotient] at next
  calc
    dividend < divisor * step * (dividend / divisor / step + 1) := next
    _ ≤ divisor * step * (2 * (dividend / divisor / step)) :=
        Nat.mul_le_mul_left _ (by omega)
    _ = 2 * divisor * (dividend / divisor / step * step) := by ring

/-- A divisor comes back exactly when it is a quotient itself. -/
theorem div_quotient_eq_iff :
    dividend / (dividend / divisor / step * step) = divisor ↔
      ∃ quotient, divisor = dividend / (quotient * step) := by
  constructor
  · intro same
    exact ⟨_, same.symm⟩
  · rintro ⟨quotient, isQuotient⟩
    apply Nat.le_antisymm _ (le_div_quotient divisorPos stepPos fits)
    have product : quotient * step * divisor ≤ dividend := by
      rw [isQuotient]
      exact Nat.mul_div_le dividend (quotient * step)
    have smaller : quotient ≤ dividend / divisor / step := by
      rw [Nat.le_div_iff_mul_le stepPos, Nat.le_div_iff_mul_le divisorPos]
      exact product
    have positive : 0 < quotient * step := by
      apply Nat.pos_of_ne_zero
      intro zero
      rw [zero, Nat.div_zero] at isQuotient
      omega
    calc
      dividend / (dividend / divisor / step * step) ≤
          dividend / (quotient * step) :=
        Nat.div_le_div_left (Nat.mul_le_mul_right step smaller) positive
      _ = divisor := isQuotient.symm

end Quotients

/-! ## The latches -/

theorem toNat_and_nibble (byte : BitVec 8) : (byte &&& 0xf).toNat < 16 := by
  revert byte
  decide

theorem or_nibble_eq_self_iff (byte new : BitVec 8) :
    byte &&& 0xf0 ||| new &&& 0xf = byte ↔ new &&& 0xf = byte &&& 0xf := by
  constructor
  · intro same
    have low := congrArg (fun byte => byte &&& 0xf) same
    rw [← low]
    ext bit inside
    interval_cases bit <;> simp
  · intro same
    rw [same]
    ext bit inside
    interval_cases bit <;> simp

theorem toNat_latchedDivisor (banked : Nat → BitVec 8) :
    (latchedDivisor banked).toNat =
      (banked dlmOffset).toNat * 4096 + (banked dllOffset).toNat * 16 +
        (banked dldOffset &&& 0xf).toNat := by
  have low := toNat_and_nibble (banked dldOffset)
  unfold latchedDivisor
  generalize banked dldOffset &&& 0xf = nibble at low ⊢
  bv_omega

theorem latchedDivisor_lt (banked : Nat → BitVec 8) :
    (latchedDivisor banked).toNat < 2 ^ 20 := by
  rw [toNat_latchedDivisor]
  have low := toNat_and_nibble (banked dldOffset)
  omega

theorem storeDivisor_eq_self_iff_bytes (banked : Nat → BitVec 8)
    (divisor : BitVec 32) :
    storeDivisor banked divisor = banked ↔
      (divisor >>> 12).setWidth 8 = banked dlmOffset ∧
        (divisor >>> 4).setWidth 8 = banked dllOffset ∧
        divisor.setWidth 8 &&& 0xf = banked dldOffset &&& 0xf := by
  have middle : ((divisor >>> 4) &&& 0xff).setWidth 8 =
      (divisor >>> 4).setWidth 8 := by
    rw [BitVec.setWidth_and]
    exact BitVec.and_allOnes
  have nibble : (divisor &&& 0xf).setWidth 8 = divisor.setWidth 8 &&& 0xf := by
    rw [BitVec.setWidth_and]
    rfl
  rw [← or_nibble_eq_self_iff, ← nibble, ← middle]
  constructor
  · intro same
    refine ⟨?_, ?_, ?_⟩
    · rw [← congrFun same dlmOffset]
      rfl
    · rw [← congrFun same dllOffset]
      rfl
    · exact congrFun same dldOffset
  · rintro ⟨dlm, dll, dld⟩
    rw [storeDivisor, dlm, Function.update_eq_self, dll,
      Function.update_eq_self, dld, Function.update_eq_self]

theorem storeDivisor_eq_self_iff (banked : Nat → BitVec 8)
    (divisor : BitVec 32) :
    storeDivisor banked divisor = banked ↔
      divisor.toNat % 2 ^ 20 = (latchedDivisor banked).toNat := by
  have dld : (divisor.setWidth 8 &&& 0xf).toNat = divisor.toNat % 16 := by
    have low : divisor.toNat % 256 &&& 15 = divisor.toNat % 256 % 16 :=
      Nat.and_two_pow_sub_one_eq_mod _ 4
    have nested : divisor.toNat % 256 % 16 = divisor.toNat % 16 := by omega
    rw [BitVec.toNat_and, BitVec.toNat_setWidth]
    exact low.trans nested
  have held := toNat_and_nibble (banked dldOffset)
  rw [storeDivisor_eq_self_iff_bytes, toNat_latchedDivisor,
    ← BitVec.toNat_inj, ← BitVec.toNat_inj, ← BitVec.toNat_inj, dld,
    BitVec.toNat_setWidth, BitVec.toNat_setWidth, BitVec.toNat_ushiftRight,
    BitVec.toNat_ushiftRight, Nat.shiftRight_eq_div_pow,
    Nat.shiftRight_eq_div_pow]
  omega

/-! ## Sample rates -/

section SampleRates

variable {sampleRate : BitVec 32}
  (rates : sampleRate = 4 ∨ sampleRate = 8 ∨ sampleRate = 16)
include rates

theorem sampleRate_pos : 0 < sampleRate.toNat := by
  rcases rates with rfl | rfl | rfl <;> decide

theorem sampleRate_le : sampleRate.toNat ≤ 16 := by
  rcases rates with rfl | rfl | rfl <;> decide

theorem sampleRate_ne_zero : sampleRate ≠ 0 := by
  intro zero
  have positive := sampleRate_pos rates
  rw [zero] at positive
  exact absurd positive (by decide)

end SampleRates

/-! ## Reading the rate and setting it again -/

section RoundTrip

variable {divisor sampleRate : BitVec 32}

theorem toNat_baudRate :
    (baudRate divisor sampleRate).toNat =
      2000000000 / divisor.toNat / sampleRate.toNat := by
  have scaled : (baudInputFreq.setWidth 64 <<< 4 / 1).toNat = 2000000000 := rfl
  have divisorWide : (divisor.setWidth 64).toNat = divisor.toNat := by
    bv_omega
  have rateWide : (sampleRate.setWidth 64).toNat = sampleRate.toNat := by
    bv_omega
  rw [baudRate, BitVec.toNat_udiv, BitVec.toNat_udiv, scaled, divisorWide,
    rateWide]

theorem toNat_baudDivisor {value : BitVec 64} (rateNonzero : sampleRate ≠ 0)
    (inRange : ¬value > baudLimit sampleRate) :
    (baudDivisor value sampleRate).toNat =
      2000000000 / (value.toNat * sampleRate.toNat) := by
  have product := (toNat_baudProduct rateNonzero inRange).1
  have scaled : ((baudInputFreq * 16 / 1).setWidth 64).toNat = 2000000000 := rfl
  have small : 2000000000 / (value.toNat * sampleRate.toNat) ≤ 2000000000 :=
    Nat.div_le_self _ _
  rw [baudDivisor, BitVec.toNat_setWidth, BitVec.toNat_udiv, scaled, product]
  exact Nat.mod_eq_of_lt (Nat.lt_of_le_of_lt small (by decide))

/-- The divisor counts sixteenths: below one the rate is too high to be set. -/
theorem baudRate_gt_limit_iff (divisorPos : 0 < divisor.toNat)
    (rates : sampleRate = 4 ∨ sampleRate = 8 ∨ sampleRate = 16) :
    baudRate divisor sampleRate > baudLimit sampleRate ↔
      divisor.toNat < 16 := by
  rw [gt_iff_lt, BitVec.lt_def, toNat_baudLimit, toNat_baudRate]
  by_cases high : divisor.toNat < 16
  · have quotient : 2000000000 / 15 ≤ 2000000000 / divisor.toNat :=
      Nat.div_le_div_left (by omega) divisorPos
    apply iff_of_true _ high
    rcases rates with rfl | rfl | rfl
    · change 125000000 / 4 < 2000000000 / divisor.toNat / 4
      omega
    · change 125000000 / 8 < 2000000000 / divisor.toNat / 8
      omega
    · change 125000000 / 16 < 2000000000 / divisor.toNat / 16
      omega
  · have quotient : 2000000000 / divisor.toNat ≤ 2000000000 / 16 :=
      Nat.div_le_div_left (by omega) (by decide)
    apply iff_of_false _ high
    exact Nat.not_lt.mpr (Nat.div_le_div_right quotient)

theorem baudRate_ne_zero (divisorSmall : divisor.toNat < 2 ^ 20)
    (divisorPos : 0 < divisor.toNat)
    (rates : sampleRate = 4 ∨ sampleRate = 8 ∨ sampleRate = 16) :
    baudRate divisor sampleRate ≠ 0 := by
  have ratePos := sampleRate_pos rates
  have fits : divisor.toNat * sampleRate.toNat ≤ 2000000000 := by
    have product := Nat.mul_le_mul (Nat.le_of_lt divisorSmall)
      (sampleRate_le rates)
    omega
  have positive := quotient_pos divisorPos ratePos fits
  rw [← toNat_baudRate] at positive
  intro zero
  rw [zero] at positive
  exact absurd positive (by decide)

theorem storeDivisor_baudRate_iff {banked : Nat → BitVec 8}
    (divisorPos : 0 < (latchedDivisor banked).toNat)
    (rates : sampleRate = 4 ∨ sampleRate = 8 ∨ sampleRate = 16) :
    (¬baudRate (latchedDivisor banked) sampleRate > baudLimit sampleRate →
        storeDivisor banked (baudDivisor
          (baudRate (latchedDivisor banked) sampleRate) sampleRate) = banked) ↔
      (latchedDivisor banked).toNat < 16 ∨
        ∃ rate, (latchedDivisor banked).toNat =
          2000000000 / (rate * sampleRate.toNat) := by
  have rateNonzero := sampleRate_ne_zero rates
  have ratePos := sampleRate_pos rates
  have divisorSmall := latchedDivisor_lt banked
  have fits : (latchedDivisor banked).toNat * sampleRate.toNat ≤ 2000000000 := by
    have product := Nat.mul_le_mul (Nat.le_of_lt divisorSmall)
      (sampleRate_le rates)
    omega
  rw [baudRate_gt_limit_iff divisorPos rates]
  by_cases high : (latchedDivisor banked).toNat < 16
  · simp [high]
  · have inRange := high
    rw [← baudRate_gt_limit_iff divisorPos rates] at inRange
    have least := le_div_quotient divisorPos ratePos fits
    have most := div_quotient_lt divisorPos ratePos fits
    have same := div_quotient_eq_iff divisorPos ratePos fits
    rw [storeDivisor_eq_self_iff, toNat_baudDivisor rateNonzero inRange,
      toNat_baudRate]
    rw [← same]
    omega

end RoundTrip

end SerialFc
