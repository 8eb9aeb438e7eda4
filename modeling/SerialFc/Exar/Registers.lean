import SerialFc.Driver.Operations
import SerialFc.Foundation.Masks

/-! # Exar register accesses

What the accesses and the setters and getters of PCI and PCIe ports do. The
two families share the layout: registers of the port's own UART, and device
configuration registers that all ports of the card share.
-/

namespace SerialFc

def CardState.setConfig (state : CardState) (offset : Nat) (value : BitVec 8) :
    CardState :=
  { state with config := Function.update state.config offset value }

def CardState.setPlain (state : CardState) (channel offset : Nat)
    (value : BitVec 8) : CardState :=
  { state with
    uart := Function.update state.uart channel
      { state.uart channel with
        plain := Function.update (state.uart channel).plain offset value } }

/-! ## Where an offset leads -/

def IsConfig (offset : Nat) : Prop := configBase ≤ offset

/-- UART registers whose meaning does not depend on LCR. -/
def IsPlain (offset : Nat) : Prop :=
  dldOffset < offset ∧ offset < configBase ∧ offset ≠ lcrOffset

def IsReadable (offset : Nat) : Prop :=
  IsPlain offset ∧ offset ≠ uartExarTxtrg ∧ offset ≠ uartExarRxtrg

instance (offset : Nat) : Decidable (IsConfig offset) :=
  inferInstanceAs (Decidable (_ ≤ _))

instance (offset : Nat) : Decidable (IsPlain offset) :=
  inferInstanceAs (Decidable (_ ∧ _))

instance (offset : Nat) : Decidable (IsReadable offset) :=
  inferInstanceAs (Decidable (_ ∧ _))

@[simp] theorem isConfig_8xmode : IsConfig uartExar8xmode := by decide
@[simp] theorem isConfig_4xmode : IsConfig uartExar4xmode := by decide
@[simp] theorem isConfig_mpiolvl : IsConfig mpiolvlOffset := by decide
@[simp] theorem isConfig_mpiolvlh : IsConfig mpiolvlhOffset := by decide
@[simp] theorem isConfig_mpiosel : IsConfig mpioselOffset := by decide
@[simp] theorem isConfig_mpioinv : IsConfig mpioinvOffset := by decide
@[simp] theorem isConfig_mpioselh : IsConfig mpioselhOffset := by decide

@[simp] theorem isPlain_fctr : IsPlain uartExarFctr := by decide
@[simp] theorem isPlain_mcr : IsPlain mcrOffset := by decide
@[simp] theorem isPlain_txtrg : IsPlain uartExarTxtrg := by decide
@[simp] theorem isPlain_rxtrg : IsPlain uartExarRxtrg := by decide

@[simp] theorem isReadable_fctr : IsReadable uartExarFctr := by decide
@[simp] theorem isReadable_mcr : IsReadable mcrOffset := by decide

section Accesses

variable (state : CardState) {type : CardType} (channel : Nat) {offset : Nat}

@[simp] theorem read8_config (exar : type ≠ .fscc) (isConfig : IsConfig offset) :
    state.read8 type channel offset = state.config offset := by
  have high : configBase ≤ offset := isConfig
  cases type with
  | fscc => exact absurd rfl exar
  | pci | pcie | unknown => simp [CardState.read8, high]

@[simp] theorem write8_config (exar : type ≠ .fscc) (isConfig : IsConfig offset)
    (value : BitVec 8) :
    state.write8 type channel offset value = state.setConfig offset value := by
  have high : configBase ≤ offset := isConfig
  cases type with
  | fscc => exact absurd rfl exar
  | pci | pcie | unknown => simp [CardState.write8, CardState.setConfig, high]

@[simp] theorem read8_plain (exar : type ≠ .fscc)
    (readable : IsReadable offset) :
    state.read8 type channel offset = (state.uart channel).plain offset := by
  rcases readable with ⟨⟨aboveDld, belowConfig, notLcr⟩, notTx, notRx⟩
  have notConfig := Nat.not_le.mpr belowConfig
  have notBanked := Nat.not_le.mpr aboveDld
  cases type with
  | fscc => exact absurd rfl exar
  | pci | pcie | unknown =>
      simp [CardState.read8, Uart.readExar, notConfig, notBanked, notLcr, notTx,
        notRx]

@[simp] theorem write8_plain (exar : type ≠ .fscc) (isPlain : IsPlain offset)
    (value : BitVec 8) :
    state.write8 type channel offset value =
      state.setPlain channel offset value := by
  rcases isPlain with ⟨aboveDld, belowConfig, notLcr⟩
  have notConfig := Nat.not_le.mpr belowConfig
  have notBanked := Nat.not_le.mpr aboveDld
  cases type with
  | fscc => exact absurd rfl exar
  | pci | pcie | unknown =>
      simp [CardState.write8, CardState.setPlain, Uart.writeExar, notConfig,
        notBanked, notLcr]

end Accesses

/-! ## Setters and getters of `utils.c` on an Exar port -/

section Runs

variable (port : Port) (state : CardState)

theorem run_setSampleRatePci (value : BitVec 32)
    (inRange : ¬(value ≠ 8 ∧ value ≠ 16)) :
    (cardMachine .pci).run (fastcomSetSampleRatePci port value) state =
      (some 0, state.setConfig uartExar8xmode
        (switchBits (decide (value = 8)) (1#8 <<< port.channel)
          (state.config uartExar8xmode))) := by
  rw [fastcomSetSampleRatePci, if_neg inRange]
  simp [Machine.run_bind, switchBits]

theorem run_setSampleRatePcie (value : BitVec 32)
    (inRange : ¬(value ≠ 4 ∧ value ≠ 8 ∧ value ≠ 16)) :
    (cardMachine .pcie).run (fastcomSetSampleRatePcie port value) state =
      (some 0, (state.setConfig uartExar4xmode
        (switchBits (decide (value = 4)) (1#8 <<< port.channel)
          (state.config uartExar4xmode))).setConfig uartExar8xmode
            (switchBits (decide (value = 8)) (1#8 <<< port.channel)
              (state.config uartExar8xmode))) := by
  rw [fastcomSetSampleRatePcie, if_neg inRange]
  simp [Machine.run_bind, switchBits]

theorem run_setTriggerExar {type : CardType} (exar : type ≠ .fscc)
    {offset : Nat} (isPlain : IsPlain offset) {limit value : BitVec 32}
    (inRange : ¬value > limit) :
    (cardMachine type).run (setTriggerExar limit offset port value) state =
      (some 0, state.setPlain port.channel offset (value.setWidth 8)) := by
  rw [setTriggerExar, if_neg inRange]
  simp [exar, isPlain]

theorem run_setRs485Pci (enable : BitVec 32) :
    (cardMachine .pci).run (fastcomSetRs485Pci port enable) state =
      (some (), (state.setConfig mpiolvlOffset
        (switchBits (decide (enable = 0)) (0x8#8 <<< port.channel)
          (state.config mpiolvlOffset))).setPlain port.channel uartExarFctr
            (switchBits (decide (enable ≠ 0)) 0x20
              ((state.uart port.channel).plain uartExarFctr))) := by
  by_cases off : enable = 0#32
  · simp [fastcomSetRs485Pci, Machine.run_bind, switchBits, off]
  · simp [fastcomSetRs485Pci, Machine.run_bind, switchBits, off]

theorem run_setRs485Pcie (enable : BitVec 32) :
    (cardMachine .pcie).run (fastcomSetRs485Pcie port enable) state =
      (some (), (state.setPlain port.channel mcrOffset
        (switchBits (decide (enable ≠ 0)) 0x04
          ((state.uart port.channel).plain mcrOffset))).setPlain port.channel
            uartExarFctr
            (switchBits (decide (enable ≠ 0)) 0x20
              ((state.uart port.channel).plain uartExarFctr))) := by
  simp [fastcomSetRs485Pcie, Machine.run_bind, switchBits]

theorem run_getRs485Pci {type : CardType} (exar : type ≠ .fscc) :
    (cardMachine type).run (fastcomGetRs485Pci port) state =
      (some (if anySet ((state.uart port.channel).plain uartExarFctr) 0x20
        then 1 else 0), state) := by
  simp [fastcomGetRs485Pci, exar, anySet]

theorem run_setTerminationPcie (enable : BitVec 32) :
    (cardMachine .pcie).run (fastcomSetTerminationPcie port enable) state =
      (some (), state.setConfig mpiolvlOffset
        (switchBits (decide (enable = 0)) (0x1#8 <<< port.channel)
          (state.config mpiolvlOffset))) := by
  by_cases off : enable = 0#32
  · simp [fastcomSetTerminationPcie, Machine.run_bind, switchBits, off]
  · simp [fastcomSetTerminationPcie, Machine.run_bind, switchBits, off]

theorem run_getTerminationPcie :
    (cardMachine .pcie).run (fastcomGetTerminationPcie port) state =
      (some (if anySet (state.config mpiolvlOffset) (0x1#8 <<< port.channel)
        then 0 else 1), state) := by
  simp [fastcomGetTerminationPcie, anySet]

theorem run_setEchoCancelPci (enable : BitVec 32) :
    (cardMachine .pci).run (fastcomSetEchoCancelPci port enable) state =
      (some (), state.setConfig mpiolvlOffset
        (switchBits (decide (enable ≠ 0)) 0x80
          (state.config mpiolvlOffset))) := by
  simp [fastcomSetEchoCancelPci, Machine.run_bind, switchBits]

theorem run_getEchoCancelPci :
    (cardMachine .pci).run (fastcomGetEchoCancelPci port) state =
      (some (if anySet (state.config mpiolvlOffset) 0x80 then 1 else 0),
        state) := by
  simp [fastcomGetEchoCancelPci, anySet]

theorem run_setEchoCancelPcie (enable : BitVec 32) :
    (cardMachine .pcie).run (fastcomSetEchoCancelPcie port enable) state =
      (some (), state.setConfig mpiolvlhOffset
        (switchBits (decide (enable ≠ 0)) (0x1#8 <<< port.channel)
          (state.config mpiolvlhOffset))) := by
  simp [fastcomSetEchoCancelPcie, Machine.run_bind, switchBits]

theorem run_getEchoCancelPcie :
    (cardMachine .pcie).run (fastcomGetEchoCancelPcie port) state =
      (some (if anySet (state.config mpiolvlhOffset) (0x1#8 <<< port.channel)
        then 1 else 0), state) := by
  simp [fastcomGetEchoCancelPcie, anySet]

end Runs

end SerialFc
