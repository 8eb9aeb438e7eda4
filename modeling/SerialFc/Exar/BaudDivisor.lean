import SerialFc.Exar.BaudRoundTrip

/-! # The divisor that is latched

Setting a rate computes a quotient of up to 32 bits, of which the latches hold
20. Which rates keep all of it.
-/

namespace SerialFc

/-- The rate is refused without a write, or the latches hold the whole
quotient, with the rest of DLD and LCR as they were. -/
def SetsDivisor (port : Port) (value : BitVec 64) (state : CardState) : Prop :=
  let program := fastcomSetBaudRate port value
  let sampleRate := (state.fields port.channel).sampleRate
  ((cardMachine .pcie).run program state = (some (-einval), state) ∧
    ∀ access ∈ (cardMachine .pcie).trace program state,
      access.writesRegister = false) ∨
  ∃ next, (cardMachine .pcie).run program state = (some 0, next) ∧
    (latchedDivisor (next.uart port.channel).banked).toNat =
      2000000000 / (value.toNat * sampleRate.toNat) ∧
    (next.uart port.channel).banked dldOffset &&& 0xf0 =
      (state.uart port.channel).banked dldOffset &&& 0xf0 ∧
    (next.uart port.channel).lcr = (state.uart port.channel).lcr

/-! ## What the latches keep -/

section Latches

variable (banked : Nat → BitVec 8) (divisor : BitVec 32)

theorem toNat_latchedDivisor_storeDivisor :
    (latchedDivisor (storeDivisor banked divisor)).toNat =
      divisor.toNat % 2 ^ 20 := by
  have again : storeDivisor (storeDivisor banked divisor) divisor =
      storeDivisor banked divisor := by
    rw [storeDivisor_eq_self_iff_bytes]
    refine ⟨rfl, ?_, ?_⟩
    · have low : ((divisor >>> 4) &&& 0xff).setWidth 8 =
          (divisor >>> 4).setWidth 8 := by
        rw [BitVec.setWidth_and]
        exact BitVec.and_allOnes
      exact low.symm
    · change divisor.setWidth 8 &&& 0xf =
        (banked dldOffset &&& 0xf0 ||| (divisor &&& 0xf).setWidth 8) &&& 0xf
      ext bit inside
      interval_cases bit <;> simp
  exact ((storeDivisor_eq_self_iff _ _).mp again).symm

theorem storeDivisor_dld_high :
    storeDivisor banked divisor dldOffset &&& 0xf0 =
      banked dldOffset &&& 0xf0 := by
  change (banked dldOffset &&& 0xf0 ||| (divisor &&& 0xf).setWidth 8) &&& 0xf0 =
    banked dldOffset &&& 0xf0
  ext bit inside
  interval_cases bit <;> simp

end Latches

/-! ## Which rates are set -/

section Rates

variable (port : Port) (value : BitVec 64) (state : CardState)

theorem trace_pcieSetBaudRate_of_refused
    (rateNonzero : (state.fields port.channel).sampleRate ≠ 0)
    (outside : value > baudLimit (state.fields port.channel).sampleRate) :
    (cardMachine .pcie).trace (pcieSetBaudRate port value) state =
      [.load port.channel .sampleRate] := by
  have divided : (cardMachine .pcie).run
      (divide baudInputFreq (state.fields port.channel).sampleRate) state = _ :=
    run_divide state baudInputFreq rateNonzero
  rw [baudLimit] at outside
  simp only [pcieSetBaudRate, Machine.trace_bind, run_load, PortFields.get,
    divided, if_pos outside]
  rw [divide, if_neg rateNonzero]
  rfl

theorem not_setsDivisor_zero (pcie : fastcomGetCardType port = .pcie) :
    ¬SetsDivisor port 0 state := by
  have faults := run_pcieSetBaudRate_faults port state 0 (.inl rfl)
  intro sets
  simp only [SetsDivisor, fastcomSetBaudRate, pcie] at sets
  rcases sets with ⟨refused, _⟩ | ⟨next, stored, _⟩
  · rw [refused] at faults
    cases faults
  · rw [stored] at faults
    cases faults

theorem setsDivisor_of_refused (pcie : fastcomGetCardType port = .pcie)
    (rateNonzero : (state.fields port.channel).sampleRate ≠ 0)
    (valueNonzero : value ≠ 0)
    (outside : value > baudLimit (state.fields port.channel).sampleRate) :
    SetsDivisor port value state := by
  have run := run_pcieSetBaudRate port state valueNonzero rateNonzero
  have trace := trace_pcieSetBaudRate_of_refused port value state rateNonzero
    outside
  rw [if_pos outside] at run
  simp only [SetsDivisor, fastcomSetBaudRate, pcie]
  refine .inl ⟨run, ?_⟩
  intro access member
  rw [trace] at member
  rw [List.mem_singleton.mp member]
  rfl

theorem setsDivisor_iff_of_inRange (pcie : fastcomGetCardType port = .pcie)
    (rateNonzero : (state.fields port.channel).sampleRate ≠ 0)
    (valueNonzero : value ≠ 0)
    (inRange : ¬value > baudLimit (state.fields port.channel).sampleRate) :
    SetsDivisor port value state ↔
      2000000000 /
        (value.toNat * (state.fields port.channel).sampleRate.toNat) <
          2 ^ 20 := by
  have run := run_pcieSetBaudRate port state valueNonzero rateNonzero
  have divisor := toNat_baudDivisor rateNonzero inRange
  have latched := toNat_latchedDivisor_storeDivisor
    (state.uart port.channel).banked
    (baudDivisor value (state.fields port.channel).sampleRate)
  have high := storeDivisor_dld_high (state.uart port.channel).banked
    (baudDivisor value (state.fields port.channel).sampleRate)
  rw [divisor] at latched
  rw [if_neg inRange] at run
  simp only [SetsDivisor, fastcomSetBaudRate, pcie, run]
  constructor
  · rintro (⟨refused, _⟩ | ⟨next, stored, whole, _⟩)
    · have status : (0 : Int) = -einval :=
        Option.some.inj (Prod.mk.inj refused).1
      exact absurd status (by decide)
    · rcases Prod.mk.inj stored with ⟨_, rfl⟩
      simp only [CardState.setDivisor, Function.update_self, latched] at whole
      omega
  · intro small
    refine .inr ⟨_, rfl, ?_⟩
    simp only [CardState.setDivisor, Function.update_self, latched, high]
    exact ⟨Nat.mod_eq_of_lt small, trivial, trivial⟩

end Rates

/-- A rate is refused or set right exactly from 1908 samples a second on. -/
theorem setsDivisor_iff (port : Port) (pcie : fastcomGetCardType port = .pcie)
    (value : BitVec 64) (state : CardState)
    (rates : (state.fields port.channel).sampleRate = 4 ∨
      (state.fields port.channel).sampleRate = 8 ∨
      (state.fields port.channel).sampleRate = 16) :
    SetsDivisor port value state ↔
      1908 ≤ value.toNat * (state.fields port.channel).sampleRate.toNat := by
  have rateNonzero := sampleRate_ne_zero rates
  by_cases valueZero : value = 0
  · subst valueZero
    apply iff_of_false (not_setsDivisor_zero port state pcie)
    change ¬1908 ≤ 0 * _
    omega
  · by_cases outside : value > baudLimit (state.fields port.channel).sampleRate
    · apply iff_of_true
        (setsDivisor_of_refused port value state pcie rateNonzero valueZero
          outside)
      have large : (baudLimit (state.fields port.channel).sampleRate).toNat <
          value.toNat := outside
      rw [toNat_baudLimit] at large
      rcases rates with equal | equal | equal
      · rw [equal] at large ⊢
        change 1908 ≤ value.toNat * 4
        replace large : 125000000 / 4 < value.toNat := large
        omega
      · rw [equal] at large ⊢
        change 1908 ≤ value.toNat * 8
        replace large : 125000000 / 8 < value.toNat := large
        omega
      · rw [equal] at large ⊢
        change 1908 ≤ value.toNat * 16
        replace large : 125000000 / 16 < value.toNat := large
        omega
    · have positive : 0 < value.toNat *
          (state.fields port.channel).sampleRate.toNat := by
        apply Nat.mul_pos
        · exact Nat.pos_of_ne_zero fun zero =>
            valueZero (BitVec.eq_of_toNat_eq zero)
        · exact Nat.pos_of_ne_zero fun zero =>
            rateNonzero (BitVec.eq_of_toNat_eq zero)
      rw [setsDivisor_iff_of_inRange port value state pcie rateNonzero valueZero
        outside, Nat.div_lt_iff_lt_mul positive]
      omega

def sampledState : CardState :=
  { CardState.blank with fields := fun _ => ⟨16, 0, 0, 0⟩ }

theorem setsDivisor_115200 :
    SetsDivisor ⟨Card.ofDevice fc422_4PcieId 4, 2⟩ 115200 sampledState ↔
      1908 ≤ 115200 * 16 :=
  setsDivisor_iff ⟨Card.ofDevice fc422_4PcieId 4, 2⟩ rfl 115200 sampledState
    (.inr (.inr rfl))

/-- Neither a zero rate nor 110 baud is refused; the one faults, and the
quotient of the other needs 21 bits. -/
theorem not_setsDivisor_110 :
    ¬SetsDivisor ⟨Card.ofDevice fc422_4PcieId 4, 2⟩ 0 sampledState ∧
      ¬SetsDivisor ⟨Card.ofDevice fc422_4PcieId 4, 2⟩ 110 sampledState := by
  refine ⟨not_setsDivisor_zero _ _ rfl, ?_⟩
  rw [setsDivisor_iff_of_inRange _ _ _ rfl (by decide) (by decide) (by decide)]
  decide

end SerialFc
