import SerialFc.Exar.BaudDivisor

/-! # The rate that is achieved

A rate is set as a divisor and read back as the rate of that divisor. Both
round down, so the rate read back is the largest with the same divisor.
-/

namespace SerialFc

/-! ## Two quotients of one dividend

Dividing by a value and dividing by a divisor are adjoint: each is the largest
that the other allows. -/

section Adjoint

variable {dividend divisor step value : Nat}

theorem le_quotient_iff (divisorPos : 0 < divisor) (stepPos : 0 < step)
    (valuePos : 0 < value) :
    divisor ≤ dividend / (value * step) ↔
      value ≤ dividend / divisor / step := by
  rw [Nat.le_div_iff_mul_le (Nat.mul_pos valuePos stepPos),
    Nat.le_div_iff_mul_le stepPos, Nat.le_div_iff_mul_le divisorPos,
    Nat.mul_comm]

theorem readBack_error_lt (stepPos : 0 < step) (valuePos : 0 < value)
    (isDivisor : divisor = dividend / (value * step)) :
    (dividend / divisor / step - value) * divisor < value := by
  have next := Nat.lt_mul_div_succ dividend (Nat.mul_pos valuePos stepPos)
  have whole := Nat.div_mul_le_self (dividend / divisor) step
  rw [← isDivisor] at next
  have below : dividend / divisor / step * divisor * step <
      value * (divisor + 1) * step := by
    calc
      dividend / divisor / step * divisor * step =
          dividend / divisor / step * step * divisor := by ring
      _ ≤ dividend / divisor * divisor := Nat.mul_le_mul_right divisor whole
      _ ≤ dividend := Nat.div_mul_le_self dividend divisor
      _ < value * step * (divisor + 1) := next
      _ = value * (divisor + 1) * step := by ring
  have product := Nat.lt_of_mul_lt_mul_right below
  rw [Nat.sub_mul]
  rw [Nat.mul_add, Nat.mul_one] at product
  omega

end Adjoint

/-! ## Setting and reading -/

def neededDivisor (value : BitVec 64) (sampleRate : BitVec 32) : Nat :=
  2000000000 / (value.toNat * sampleRate.toNat)

/-- A port has just accepted a rate whose divisor fits the latches. -/
structure AcceptedRate (port : Port) (sampleRate : BitVec 32)
    (value : BitVec 64) (next : CardState) : Prop where
  fits : 1 ≤ neededDivisor value sampleRate ∧
    neededDivisor value sampleRate < 2 ^ 20
  accepted : ∃ state, (state.fields port.channel).sampleRate = sampleRate ∧
    port.card.machine.run (fastcomSetBaudRate port value) state = (some 0, next)

def ReportsRate (port : Port) (state : CardState) (rate : BitVec 64) : Prop :=
  ∀ before, port.card.machine.run (fastcomGetBaudRate port before) state =
    (some (0, rate), state)

theorem ReportsRate.unique {port : Port} {state : CardState}
    {rate other : BitVec 64} (reports : ReportsRate port state rate)
    (alsoReports : ReportsRate port state other) : rate = other := by
  have same := (reports 0).symm.trans (alsoReports 0)
  simpa using same

section Accepted

variable {port : Port} (pcie : fastcomGetCardType port = .pcie)
  {sampleRate : BitVec 32}
  (rates : sampleRate = 4 ∨ sampleRate = 8 ∨ sampleRate = 16)
  {value : BitVec 64} {next : CardState}
  (accepted : AcceptedRate port sampleRate value next)

include accepted in
theorem AcceptedRate.value_pos : 0 < value.toNat := by
  apply Nat.pos_of_ne_zero
  intro zero
  have fits := accepted.fits.1
  rw [neededDivisor, zero, Nat.zero_mul, Nat.div_zero] at fits
  omega

include pcie rates accepted

theorem AcceptedRate.latched :
    (next.fields port.channel).sampleRate = sampleRate ∧
      (latchedDivisor (next.uart port.channel).banked).toNat =
        neededDivisor value sampleRate ∧
      ¬value > baudLimit sampleRate := by
  have rateNonzero := sampleRate_ne_zero rates
  have valueNonzero : value ≠ 0 := by
    rintro rfl
    exact absurd accepted.value_pos (Nat.lt_irrefl 0)
  rcases accepted.accepted with ⟨state, rfl, run⟩
  have machineEq := machine_of_cardType pcie
  rw [machineEq, fastcomSetBaudRate, pcie] at run
  simp only [run_pcieSetBaudRate port state valueNonzero rateNonzero] at run
  split at run
  case isTrue refused =>
    have status : -einval = (0 : Int) := Option.some.inj (Prod.mk.inj run).1
    exact absurd status (by decide)
  case isFalse inRange =>
    rcases Prod.mk.inj run with ⟨_, rfl⟩
    refine ⟨rfl, ?_, inRange⟩
    have stored := toNat_latchedDivisor_storeDivisor
      (state.uart port.channel).banked
      (baudDivisor value (state.fields port.channel).sampleRate)
    have small : 2000000000 /
        (value.toNat * (state.fields port.channel).sampleRate.toNat) < 2 ^ 20 :=
      accepted.fits.2
    rw [toNat_baudDivisor rateNonzero inRange, Nat.mod_eq_of_lt small] at stored
    simp only [CardState.setDivisor, Function.update_self]
    exact stored

theorem AcceptedRate.reports :
    ReportsRate port next
      (baudRate (latchedDivisor (next.uart port.channel).banked) sampleRate) := by
  rcases accepted.latched pcie rates with ⟨sampled, divisor, _⟩
  have rateNonzero : (next.fields port.channel).sampleRate ≠ 0 := by
    rw [sampled]
    exact sampleRate_ne_zero rates
  have divisorNonzero : latchedDivisor (next.uart port.channel).banked ≠ 0 := by
    intro zero
    have fits := accepted.fits.1
    rw [zero] at divisor
    exact absurd divisor (by simp; omega)
  intro before
  have machineEq := machine_of_cardType pcie
  rw [machineEq, fastcomGetBaudRate, pcie]
  have run := run_pcieGetBaudRate port next rateNonzero divisorNonzero
  rw [sampled] at run
  exact run

theorem AcceptedRate.toNat_rate {rate : BitVec 64}
    (reports : ReportsRate port next rate) :
    rate.toNat =
      2000000000 / neededDivisor value sampleRate / sampleRate.toNat := by
  rw [reports.unique (accepted.reports pcie rates), toNat_baudRate,
    (accepted.latched pcie rates).2.1]

theorem AcceptedRate.run_again {rate : BitVec 64}
    (reports : ReportsRate port next rate) :
    port.card.machine.run (fastcomSetBaudRate port rate) next =
      (some 0, next) := by
  rcases accepted.latched pcie rates with ⟨sampled, divisor, inRange⟩
  have rateNonzero := sampleRate_ne_zero rates
  have divisorPos : 0 < (latchedDivisor (next.uart port.channel).banked).toNat := by
    rw [divisor]
    exact accepted.fits.1
  have whole : ¬(latchedDivisor (next.uart port.channel).banked).toNat < 16 := by
    have product := (toNat_baudProduct rateNonzero inRange).2
    rw [divisor, neededDivisor, Nat.not_lt, Nat.le_div_iff_mul_le]
    · omega
    · exact Nat.mul_pos accepted.value_pos (sampleRate_pos rates)
  have isRate := reports.unique (accepted.reports pcie rates)
  have acceptedAgain : ¬rate > baudLimit sampleRate := by
    rw [isRate, baudRate_gt_limit_iff divisorPos rates]
    exact whole
  have nonzero : rate ≠ 0 := by
    rw [isRate]
    exact baudRate_ne_zero (latchedDivisor_lt _) divisorPos rates
  have stored := (storeDivisor_baudRate_iff divisorPos rates).mpr
    (.inr ⟨value.toNat, divisor⟩)
  rw [← isRate] at stored
  have machineEq := machine_of_cardType pcie
  rw [machineEq, fastcomSetBaudRate, pcie]
  simp only [run_pcieSetBaudRate port next nonzero (sampled ▸ rateNonzero),
    sampled, if_neg acceptedAgain, CardState.setDivisor, stored acceptedAgain,
    Function.update_eq_self]

end Accepted

/-- A rate that was set reads back as one that is not below it, exceeds it by
no more than its share of one divisor and is a fixed point; higher rates read
back no lower. -/
theorem baudRate_readsBack (port : Port)
    (pcie : fastcomGetCardType port = .pcie) (sampleRate : BitVec 32)
    (rates : sampleRate = 4 ∨ sampleRate = 8 ∨ sampleRate = 16) :
    (∀ value next, AcceptedRate port sampleRate value next →
      latchedDivisor (next.uart port.channel).banked ≠ 0 ∧
      ∃ rate, ReportsRate port next rate ∧
        value.toNat ≤ rate.toNat ∧
        (rate.toNat - value.toNat) * neededDivisor value sampleRate ≤
          value.toNat ∧
        port.card.machine.run (fastcomSetBaudRate port rate) next =
          (some 0, next)) ∧
    ∀ value higher next other rate higherRate,
      AcceptedRate port sampleRate value next →
      AcceptedRate port sampleRate higher other →
      ReportsRate port next rate → ReportsRate port other higherRate →
      value ≤ higher → rate ≤ higherRate := by
  have ratePos := sampleRate_pos rates
  constructor
  · intro value next accepted
    have divisor := (accepted.latched pcie rates).2.1
    have fits := accepted.fits.1
    have reports := accepted.reports pcie rates
    have valuePos := accepted.value_pos
    refine ⟨?_, _, reports, ?_, ?_, accepted.run_again pcie rates reports⟩
    · intro zero
      rw [zero] at divisor
      rw [← divisor] at fits
      exact absurd fits (by decide)
    · rw [accepted.toNat_rate pcie rates reports,
        ← le_quotient_iff fits ratePos valuePos]
      exact Nat.le_refl _
    · rw [accepted.toNat_rate pcie rates reports]
      exact Nat.le_of_lt (readBack_error_lt ratePos valuePos rfl)
  · intro value higher next other rate higherRate accepted acceptedHigher reports
      reportsHigher le
    have lower : neededDivisor higher sampleRate ≤
        neededDivisor value sampleRate :=
      Nat.div_le_div_left (Nat.mul_le_mul_right _ le)
        (Nat.mul_pos accepted.value_pos ratePos)
    rw [BitVec.le_def, accepted.toNat_rate pcie rates reports,
      acceptedHigher.toNat_rate pcie rates reportsHigher]
    exact Nat.div_le_div_right
      (Nat.div_le_div_left lower acceptedHigher.fits.1)

/-- 115200 baud on a port that samples at 16 comes out as 115207. -/
theorem baudRate_readsBack_115200 :
    ∃ next, AcceptedRate ⟨Card.ofDevice fc422_4PcieId 4, 2⟩ 16 115200 next ∧
      ReportsRate ⟨Card.ofDevice fc422_4PcieId 4, 2⟩ next 115207 ∧
      (cardMachine .pcie).run
        (fastcomSetBaudRate ⟨Card.ofDevice fc422_4PcieId 4, 2⟩ 115207) next =
          (some 0, next) := by
  have run := run_pcieSetBaudRate ⟨Card.ofDevice fc422_4PcieId 4, 2⟩ sampledState
    (show (115200 : BitVec 64) ≠ 0 by decide) (by decide)
  rw [if_neg (by decide)] at run
  have accepted : AcceptedRate ⟨Card.ofDevice fc422_4PcieId 4, 2⟩ 16 115200 _ :=
    ⟨by decide, sampledState, rfl, run⟩
  rcases (baudRate_readsBack ⟨Card.ofDevice fc422_4PcieId 4, 2⟩ rfl 16
    (.inr (.inr rfl))).1 _ _ accepted with ⟨_, rate, reports, _, _, again⟩
  have isRate : rate = 115207 := by
    apply BitVec.eq_of_toNat_eq
    rw [accepted.toNat_rate rfl (.inr (.inr rfl)) reports]
    decide
  rw [isRate] at reports again
  exact ⟨_, accepted, reports, again⟩

end SerialFc
