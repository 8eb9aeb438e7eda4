import SerialFc.Exar.Registers
import Mathlib.Tactic.Linarith

/-! # The divisor latches of a PCIe port

Setting the baud rate stores a divisor in sixteenths in the three latches that
bit 7 of LCR switches in, and leaves everything else as it was.
-/

namespace SerialFc

/-! ## Latch accesses -/

section Accesses

variable (state : CardState) {type : CardType} (channel : Nat)

def CardState.setLcr (state : CardState) (channel : Nat) (value : BitVec 8) :
    CardState :=
  { state with
    uart := Function.update state.uart channel
      { state.uart channel with lcr := value } }

def CardState.setBanked (state : CardState) (channel offset : Nat)
    (value : BitVec 8) : CardState :=
  { state with
    uart := Function.update state.uart channel
      { state.uart channel with
        banked := Function.update (state.uart channel).banked offset value } }

@[simp] theorem setLcr_fields (value : BitVec 8) :
    (state.setLcr channel value).fields = state.fields := rfl

@[simp] theorem setLcr_lcr (value : BitVec 8) :
    ((state.setLcr channel value).uart channel).lcr = value := by
  simp [CardState.setLcr]

@[simp] theorem setBanked_lcr (offset : Nat) (value : BitVec 8) :
    ((state.setBanked channel offset value).uart channel).lcr =
      (state.uart channel).lcr := by
  simp [CardState.setBanked]

@[simp] theorem read8_exar_lcr (exar : type ≠ .fscc) :
    state.read8 type channel lcrOffset = (state.uart channel).lcr := by
  cases type with
  | fscc => exact absurd rfl exar
  | pci | pcie | unknown =>
      simp [CardState.read8, Uart.readExar, configBase, lcrOffset]

@[simp] theorem write8_exar_lcr (exar : type ≠ .fscc) (value : BitVec 8) :
    state.write8 type channel lcrOffset value = state.setLcr channel value := by
  cases type with
  | fscc => exact absurd rfl exar
  | pci | pcie | unknown =>
      simp [CardState.write8, CardState.setLcr, Uart.writeExar, configBase,
        lcrOffset]

variable {offset : Nat}

theorem read8_banked (exar : type ≠ .fscc) (isLatch : offset ≤ dldOffset)
    (switchedIn : (state.uart channel).lcr.getLsbD 7 = true) :
    state.read8 type channel offset = (state.uart channel).banked offset := by
  have notConfig : ¬configBase ≤ offset := by
    simp only [configBase, dldOffset] at isLatch ⊢
    omega
  have notLcr : offset ≠ lcrOffset := by
    simp only [lcrOffset, dldOffset] at isLatch ⊢
    omega
  cases type with
  | fscc => exact absurd rfl exar
  | pci | pcie | unknown =>
      simp [CardState.read8, Uart.readExar, notConfig, notLcr, isLatch,
        switchedIn]

theorem write8_banked (exar : type ≠ .fscc) (isLatch : offset ≤ dldOffset)
    (switchedIn : (state.uart channel).lcr.getLsbD 7 = true) (value : BitVec 8) :
    state.write8 type channel offset value =
      state.setBanked channel offset value := by
  have notConfig : ¬configBase ≤ offset := by
    simp only [configBase, dldOffset] at isLatch ⊢
    omega
  have notLcr : offset ≠ lcrOffset := by
    simp only [lcrOffset, dldOffset] at isLatch ⊢
    omega
  cases type with
  | fscc => exact absurd rfl exar
  | pci | pcie | unknown =>
      simp [CardState.write8, CardState.setBanked, Uart.writeExar, notConfig,
        notLcr, isLatch, switchedIn]

end Accesses

@[simp] theorem dlmOffset_le : dlmOffset ≤ dldOffset := by decide
@[simp] theorem dllOffset_le : dllOffset ≤ dldOffset := by decide

/-! ## Setting the divisor -/

/-- The divisor in sixteenths that the driver computes for a rate. -/
def baudDivisor (value : BitVec 64) (sampleRate : BitVec 32) : BitVec 32 :=
  ((baudInputFreq * 16 / 1).setWidth 64 /
    (value * sampleRate.setWidth 64)).setWidth 32

def baudLimit (sampleRate : BitVec 32) : BitVec 64 :=
  (baudInputFreq / sampleRate).setWidth 64

def storeDivisor (banked : Nat → BitVec 8) (divisor : BitVec 32) :
    Nat → BitVec 8 :=
  Function.update
    (Function.update
      (Function.update banked dlmOffset ((divisor >>> 12).setWidth 8))
      dllOffset (((divisor >>> 4) &&& 0xff).setWidth 8))
    dldOffset (banked dldOffset &&& 0xf0 ||| (divisor &&& 0xf).setWidth 8)

def CardState.setDivisor (state : CardState) (channel : Nat)
    (divisor : BitVec 32) : CardState :=
  { state with
    uart := Function.update state.uart channel
      { state.uart channel with
        banked := storeDivisor (state.uart channel).banked divisor } }

theorem toNat_baudLimit (sampleRate : BitVec 32) :
    (baudLimit sampleRate).toNat = 125000000 / sampleRate.toNat := by
  rw [baudLimit, BitVec.toNat_setWidth, BitVec.toNat_udiv]
  have small : baudInputFreq.toNat / sampleRate.toNat ≤ baudInputFreq.toNat :=
    Nat.div_le_self _ _
  have freq : baudInputFreq.toNat = 125000000 := rfl
  rw [freq] at small ⊢
  exact Nat.mod_eq_of_lt (by omega)

/-- Within the limit the product of rate and sampling does not wrap. -/
theorem toNat_baudProduct {value : BitVec 64} {sampleRate : BitVec 32}
    (rateNonzero : sampleRate ≠ 0)
    (inRange : ¬value > baudLimit sampleRate) :
    (value * sampleRate.setWidth 64).toNat = value.toNat * sampleRate.toNat ∧
      value.toNat * sampleRate.toNat ≤ 125000000 := by
  have limit : value.toNat ≤ 125000000 / sampleRate.toNat := by
    rw [← toNat_baudLimit]
    exact BitVec.le_def.mp (BitVec.not_lt.mp inRange)
  have ratePos : 0 < sampleRate.toNat :=
    Nat.pos_of_ne_zero fun zero => rateNonzero (BitVec.eq_of_toNat_eq zero)
  have product : value.toNat * sampleRate.toNat ≤ 125000000 :=
    (Nat.le_div_iff_mul_le ratePos).mp limit
  have wide : (sampleRate.setWidth 64).toNat = sampleRate.toNat := by
    rw [BitVec.toNat_setWidth]
    exact Nat.mod_eq_of_lt (by omega)
  refine ⟨?_, product⟩
  rw [BitVec.toNat_mul, wide]
  exact Nat.mod_eq_of_lt (by omega)

theorem baudProduct_ne_zero {value : BitVec 64} {sampleRate : BitVec 32}
    (valueNonzero : value ≠ 0) (rateNonzero : sampleRate ≠ 0)
    (inRange : ¬value > baudLimit sampleRate) :
    value * sampleRate.setWidth 64 ≠ 0 := by
  intro zero
  have product := (toNat_baudProduct rateNonzero inRange).1
  rw [zero] at product
  rcases Nat.mul_eq_zero.mp product.symm with valueZero | rateZero
  · exact valueNonzero (BitVec.eq_of_toNat_eq valueZero)
  · exact rateNonzero (BitVec.eq_of_toNat_eq rateZero)

section Runs

variable (port : Port) (state : CardState)

theorem run_divide {w : Nat} {type : CardType} (dividend : BitVec w)
    {divisor : BitVec w} (nonzero : divisor ≠ 0) :
    (cardMachine type).run (divide dividend divisor) state =
      (some (dividend / divisor), state) := by
  rw [divide, if_neg nonzero]
  rfl

theorem run_divide_zero {w : Nat} {type : CardType} (dividend : BitVec w) :
    (cardMachine type).run (divide dividend 0#w) state = (none, state) := by
  have isZero : 0#w = (0 : BitVec w) := rfl
  rw [divide, if_pos isZero]
  rfl

theorem run_pcieSetBaudRate {value : BitVec 64} (valueNonzero : value ≠ 0)
    (rateNonzero : (state.fields port.channel).sampleRate ≠ 0) :
    (cardMachine .pcie).run (pcieSetBaudRate port value) state =
      if value > baudLimit (state.fields port.channel).sampleRate then
        (some (-einval), state)
      else
        (some 0, state.setDivisor port.channel
          (baudDivisor value (state.fields port.channel).sampleRate)) := by
  by_cases outside : value > baudLimit (state.fields port.channel).sampleRate
  · rw [if_pos outside]
    rw [baudLimit] at outside
    simp only [pcieSetBaudRate, Machine.run_bind, run_load, PortFields.get,
      run_divide state _ rateNonzero, if_pos outside, Machine.run_pure]
  · have productNonzero := baudProduct_ne_zero valueNonzero rateNonzero outside
    rw [if_neg outside]
    rw [baudLimit] at outside
    have one : (1 : BitVec 32) ≠ 0 := by decide
    generalize switchedEq : state.setLcr port.channel
      ((state.uart port.channel).lcr ||| 0x80) = switched
    have latched : (switched.uart port.channel).lcr.getLsbD 7 = true := by
      simp [← switchedEq]
    have fields : switched.fields = state.fields := by
      simp [← switchedEq]
    simp only [pcieSetBaudRate, Machine.run_bind, run_load, PortFields.get,
      run_divide state _ rateNonzero, if_neg outside, run_ioread8,
      run_iowrite8, read8_exar_lcr, write8_exar_lcr, ne_eq, reduceCtorEq,
      not_false_eq_true, switchedEq, run_divide switched _ one, fields,
      run_divide switched _ productNonzero, Machine.run_pure,
      read8_banked, write8_banked, latched, setBanked_lcr, dlmOffset_le,
      dllOffset_le, Nat.le_refl]
    subst switchedEq
    simp [CardState.setDivisor, storeDivisor, baudDivisor, CardState.setLcr,
      CardState.setBanked]

theorem run_pcieSetBaudRate_faults (value : BitVec 64)
    (zero : value = 0 ∨ (state.fields port.channel).sampleRate = 0) :
    ((cardMachine .pcie).run (pcieSetBaudRate port value) state).1 = none := by
  by_cases rateZero : (state.fields port.channel).sampleRate = 0#32
  · simp only [pcieSetBaudRate, Machine.run_bind, run_load, PortFields.get,
      rateZero, run_divide_zero state]
  · have valueZero : value = 0#64 := zero.resolve_right rateZero
    have one : (1 : BitVec 32) ≠ 0 := by decide
    have inRange : ¬(0#64 > (baudInputFreq /
        (state.fields port.channel).sampleRate).setWidth 64) := by
      bv_omega
    simp only [pcieSetBaudRate, Machine.run_bind, run_load, PortFields.get,
      run_divide state _ rateZero, valueZero, if_neg inRange, run_ioread8,
      run_iowrite8, read8_exar_lcr, write8_exar_lcr, ne_eq, reduceCtorEq,
      not_false_eq_true, run_divide _ _ one, BitVec.zero_mul, run_divide_zero]

theorem pcieSetBaudRate_fails_unchanged {value : BitVec 64} {status : Int}
    {next : CardState}
    (run : (cardMachine .pcie).run (pcieSetBaudRate port value) state =
      (some status, next)) (failed : status ≠ 0) : next = state := by
  by_cases zero : value = 0 ∨ (state.fields port.channel).sampleRate = 0
  · have faults := run_pcieSetBaudRate_faults port state value zero
    rw [run] at faults
    cases faults
  · have nonzero := not_or.mp zero
    rw [run_pcieSetBaudRate port state nonzero.1 nonzero.2] at run
    split at run
    · exact (Prod.mk.inj run).2.symm
    · have same : (0 : Int) = status := Option.some.inj (Prod.mk.inj run).1
      exact absurd same.symm failed

/-! ## Reading the divisor back -/

/-- The divisor in sixteenths that the latches hold. -/
def latchedDivisor (banked : Nat → BitVec 8) : BitVec 32 :=
  ((banked dlmOffset).setWidth 32 <<< 12) +
    ((banked dllOffset).setWidth 32 <<< 4) +
    (banked dldOffset &&& 0xf).setWidth 32

def baudRate (divisor : BitVec 32) (sampleRate : BitVec 32) : BitVec 64 :=
  (baudInputFreq.setWidth 64 <<< 4) / 1 / divisor.setWidth 64 /
    sampleRate.setWidth 64

theorem setWidth64_ne_zero {value : BitVec 32} (nonzero : value ≠ 0) :
    value.setWidth 64 ≠ 0 := by
  bv_omega

theorem run_pcieGetBaudRate
    (rateNonzero : (state.fields port.channel).sampleRate ≠ 0)
    (divisorNonzero : latchedDivisor (state.uart port.channel).banked ≠ 0) :
    (cardMachine .pcie).run (pcieGetBaudRate port) state =
      (some (0, baudRate (latchedDivisor (state.uart port.channel).banked)
        (state.fields port.channel).sampleRate), state) := by
  have one : (1 : BitVec 64) ≠ 0 := by decide
  generalize switchedEq : state.setLcr port.channel
    ((state.uart port.channel).lcr ||| 0x80) = switched
  have latched : (switched.uart port.channel).lcr.getLsbD 7 = true := by
    simp [← switchedEq]
  have fields : switched.fields = state.fields := by
    simp [← switchedEq]
  have banked : (switched.uart port.channel).banked =
      (state.uart port.channel).banked := by
    simp [← switchedEq, CardState.setLcr]
  have divisorWide := setWidth64_ne_zero divisorNonzero
  have rateWide := setWidth64_ne_zero rateNonzero
  rw [latchedDivisor] at divisorWide
  simp only [pcieGetBaudRate, Machine.run_bind, run_load, PortFields.get,
    run_ioread8, run_iowrite8, read8_exar_lcr, write8_exar_lcr, ne_eq,
    reduceCtorEq, not_false_eq_true, switchedEq, fields, read8_banked, latched,
    banked, dlmOffset_le, dllOffset_le, Nat.le_refl,
    run_divide switched _ one, run_divide switched _ divisorWide,
    run_divide switched _ rateWide, Machine.run_pure]
  subst switchedEq
  simp [baudRate, latchedDivisor, CardState.setLcr]

theorem run_pcieGetBaudRate_faults
    (zero : (state.fields port.channel).sampleRate = 0 ∨
      latchedDivisor (state.uart port.channel).banked = 0) :
    ((cardMachine .pcie).run (pcieGetBaudRate port) state).1 = none := by
  have one : (1 : BitVec 64) ≠ 0 := by decide
  generalize switchedEq : state.setLcr port.channel
    ((state.uart port.channel).lcr ||| 0x80) = switched
  have latched : (switched.uart port.channel).lcr.getLsbD 7 = true := by
    simp [← switchedEq]
  have fields : switched.fields = state.fields := by
    simp [← switchedEq]
  have banked : (switched.uart port.channel).banked =
      (state.uart port.channel).banked := by
    simp [← switchedEq, CardState.setLcr]
  simp only [pcieGetBaudRate, Machine.run_bind, run_load, PortFields.get,
    run_ioread8, run_iowrite8, read8_exar_lcr, write8_exar_lcr, ne_eq,
    reduceCtorEq, not_false_eq_true, switchedEq, read8_banked, latched,
    banked, dlmOffset_le, dllOffset_le, Nat.le_refl,
    run_divide switched _ one, Machine.run_pure]
  by_cases divisorZero : latchedDivisor (state.uart port.channel).banked = 0#32
  · rw [latchedDivisor] at divisorZero
    simp only [divisorZero, BitVec.setWidth_zero, run_divide_zero]
  · have rateZero : (switched.fields port.channel).sampleRate = 0#32 := by
      rw [fields]
      exact zero.resolve_right divisorZero
    have divisorWide := setWidth64_ne_zero divisorZero
    rw [latchedDivisor] at divisorWide
    simp only [run_divide switched _ divisorWide, rateZero,
      BitVec.setWidth_zero, run_divide_zero]

end Runs

end SerialFc
