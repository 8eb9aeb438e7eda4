import SerialFc.Driver.Operations
import SerialFc.Foundation.Masks

/-! # 16C950 register accesses

What the accesses of an FSCC port do while LCR is not 0xbf, and the single
form in which every settings operation leaves the port's UART: LCR as it was,
a new index, and a new indexed register set.
-/

namespace SerialFc

section Accesses

variable (state : CardState) (channel : Nat)

@[simp] theorem read8_fscc_lcr :
    state.read8 .fscc channel lcrOffset = (state.uart channel).lcr := by
  simp [CardState.read8, Uart.read950]

@[simp] theorem write8_fscc_lcr (value : BitVec 8) :
    state.write8 .fscc channel lcrOffset value =
      { state with
        uart := Function.update state.uart channel
          { state.uart channel with lcr := value } } := by
  simp [CardState.write8, Uart.write950]

@[simp] theorem write8_fscc_spr (value : BitVec 8)
    (window : (state.uart channel).lcr ≠ 0xbf#8) :
    state.write8 .fscc channel sprOffset value =
      { state with
        uart := Function.update state.uart channel
          { state.uart channel with spr := value } } := by
  simp [CardState.write8, Uart.write950, window, lcrOffset, sprOffset]

@[simp] theorem write8_fscc_icr (value : BitVec 8)
    (window : (state.uart channel).lcr ≠ 0xbf#8) :
    state.write8 .fscc channel icrOffset value =
      { state with
        uart := Function.update state.uart channel
          { state.uart channel with
            indexed := Function.update (state.uart channel).indexed
              (state.uart channel).spr value } } := by
  simp [CardState.write8, Uart.write950, window, lcrOffset, sprOffset, icrOffset]

@[simp] theorem read8_fscc_icr
    (window : (state.uart channel).lcr ≠ 0xbf#8)
    (readable : ((state.uart channel).indexed acrOffset).getLsbD 6 = true) :
    state.read8 .fscc channel icrOffset =
      (state.uart channel).indexed (state.uart channel).spr := by
  simp [CardState.read8, Uart.read950, window, readable, lcrOffset, sprOffset,
    icrOffset]

/-- FCR of the UART is the same offset as EFR, which LCR switches in. -/
theorem write8_fscc_fcr (value : BitVec 8) :
    ∃ banked plain, state.write8 .fscc channel fcrOffset value =
      { state with
        uart := Function.update state.uart channel
          { state.uart channel with banked, plain } } := by
  by_cases window : (state.uart channel).lcr = 0xbf#8
  · refine ⟨Function.update (state.uart channel).banked fcrOffset value,
      (state.uart channel).plain, ?_⟩
    simp [CardState.write8, Uart.write950, window, fcrOffset, lcrOffset]
  · refine ⟨(state.uart channel).banked,
      Function.update (state.uart channel).plain fcrOffset value, ?_⟩
    simp [CardState.write8, Uart.write950, window, fcrOffset, lcrOffset,
      sprOffset, icrOffset]

@[simp] theorem read32_bar2 (offset : Nat) :
    state.read32 .bar2 offset = state.fcr := rfl

@[simp] theorem read32_bar0 (offset : Nat) :
    state.read32 .bar0 offset = state.bar0 offset := rfl

@[simp] theorem write32_bar2 (offset : Nat) (value : BitVec 32) :
    state.write32 .bar2 offset value = { state with fcr := value } := rfl

end Accesses

/-- The index left in SPR and the indexed registers left behind it. -/
def CardState.setIndexed (state : CardState) (channel : Nat)
    (index : BitVec 8) (indexed : BitVec 8 → BitVec 8) : CardState :=
  { state with
    uart := Function.update state.uart channel
      { state.uart channel with spr := index, indexed } }

/-! ## Positions of the indexed registers are distinct -/

@[simp] theorem ttlOffset_ne_acrOffset : ttlOffset ≠ acrOffset := by decide
@[simp] theorem rtlOffset_ne_acrOffset : rtlOffset ≠ acrOffset := by decide
@[simp] theorem cksOffset_ne_acrOffset : cksOffset ≠ acrOffset := by decide
@[simp] theorem extOffset_ne_acrOffset : extOffset ≠ acrOffset := by decide
@[simp] theorem exthOffset_ne_acrOffset : exthOffset ≠ acrOffset := by decide
@[simp] theorem flrOffset_ne_acrOffset : flrOffset ≠ acrOffset := by decide

/-! ## Setters and getters of `utils.c` on an FSCC port -/

section Runs

variable (port : Port) (state : CardState)

theorem run_setSampleRateFscc (value : BitVec 32)
    (inRange : ¬(value < 4 ∨ value > 16)) :
    (cardMachine .fscc).run (fastcomSetSampleRateFscc port value) state =
      (some 0, state.setIndexed port.channel tcrOffset
        (Function.update (state.uart port.channel).indexed tcrOffset
          (value.setWidth 8))) := by
  rw [fastcomSetSampleRateFscc, if_neg inRange]
  simp [Machine.run_bind, CardState.setIndexed]

theorem run_setTriggerFscc (index : BitVec 8) (value : BitVec 32)
    (inRange : ¬value > 127) :
    (cardMachine .fscc).run (setTriggerFscc index port value) state =
      (some 0, state.setIndexed port.channel index
        (Function.update (state.uart port.channel).indexed index
          (value.setWidth 8))) := by
  rw [setTriggerFscc, if_neg inRange]
  simp [Machine.run_bind, CardState.setIndexed]

theorem run_getTriggerFscc (index : BitVec 8) (notAcr : index ≠ acrOffset) :
    (cardMachine .fscc).run (getTriggerFscc index port) state =
      (some (((state.uart port.channel).indexed index &&& 0x7f).setWidth 32),
        state.setIndexed port.channel acrOffset
          (Function.update (state.uart port.channel).indexed acrOffset
            (state.fields port.channel).acr)) := by
  simp [getTriggerFscc, Machine.run_bind, CardState.setIndexed, notAcr]

theorem run_setRs485Fscc (enable : BitVec 32) :
    (cardMachine .fscc).run (fastcomSetRs485Fscc port enable) state =
      let acr := switchBits (decide (enable ≠ 0)) 0x10
        (state.fields port.channel).acr
      (some (), { (state.setIndexed port.channel acrOffset
          (Function.update (state.uart port.channel).indexed acrOffset acr)).setAcr
            port.channel acr with
          fcr := switchBits (decide (enable ≠ 0)) (rs485BitMask port.channel)
            state.fcr }) := by
  simp [fastcomSetRs485Fscc, Machine.run_bind, CardState.setIndexed,
    CardState.setAcr, switchBits]

theorem run_getRs485Fscc :
    (cardMachine .fscc).run (fastcomGetRs485Fscc port) state =
      (some (if (state.fields port.channel).acr &&& 0x10 ≠ 0 ∧
          state.fcr &&& rs485BitMask port.channel ≠ 0 then 1 else 0), state) := by
  simp [fastcomGetRs485Fscc, Machine.run_bind]

theorem run_setIsochronousFscc (mode : BitVec 32)
    (inRange : ¬(mode.toInt > 10 ∨ mode.toInt < -1)) :
    (cardMachine .fscc).run (fastcomSetIsochronousFscc port mode) state =
      (some 0, state.setIndexed port.channel cksOffset
        (Function.update
          (Function.update (state.uart port.channel).indexed mdmOffset
            (isochronousMdm mode))
          cksOffset (isochronousCks mode))) := by
  rw [fastcomSetIsochronousFscc, if_neg inRange]
  simp [Machine.run_bind, CardState.setIndexed]

theorem run_getIsochronousFscc (mode : BitVec 32) :
    (cardMachine .fscc).run (fastcomGetIsochronousFscc port mode) state =
      (some (isochronousMode ((state.uart port.channel).indexed cksOffset) mode),
        state.setIndexed port.channel acrOffset
          (Function.update (state.uart port.channel).indexed acrOffset
            (state.fields port.channel).acr)) := by
  simp [fastcomGetIsochronousFscc, Machine.run_bind, CardState.setIndexed]

theorem run_setEchoCancelFscc (enable : BitVec 32) :
    (cardMachine .fscc).run (fastcomSetEchoCancelFscc port enable) state =
      (some (), { state with
        fcr := switchBits (decide (enable ≠ 0)) (echoCancelBitMask port.channel)
          state.fcr }) := by
  simp [fastcomSetEchoCancelFscc, Machine.run_bind, switchBits]

theorem run_getEchoCancelFscc :
    (cardMachine .fscc).run (fastcomGetEchoCancelFscc port) state =
      (some (if state.fcr &&& echoCancelBitMask port.channel ≠ 0 then 1 else 0),
        state) := by
  simp [fastcomGetEchoCancelFscc]

/-- The EXTH byte of a character count: bit 7 enables external transmit. -/
def externalTransmitExth (numChars : BitVec 32) : BitVec 8 :=
  if numChars ≠ 0 then (0x80 ||| (numChars >>> 8)).setWidth 8 else 0

theorem run_setExternalTransmitFscc (numChars : BitVec 32)
    (inRange : ¬numChars > 8191) :
    (cardMachine .fscc).run (fastcomSetExternalTransmitFscc port numChars) state =
      (some 0, state.setIndexed port.channel extOffset
        (Function.update
          (Function.update (state.uart port.channel).indexed exthOffset
            (externalTransmitExth numChars))
          extOffset (numChars.setWidth 8))) := by
  rw [fastcomSetExternalTransmitFscc, if_neg inRange]
  by_cases zero : numChars = 0#32
  · subst zero
    simp [Machine.run_bind, CardState.setIndexed, externalTransmitExth]
  · simp [Machine.run_bind, CardState.setIndexed, externalTransmitExth, zero]

theorem run_getExternalTransmitFscc :
    (cardMachine .fscc).run (fastcomGetExternalTransmitFscc port) state =
      (some ((((state.uart port.channel).indexed exthOffset &&& 0x1f).setWidth 32
            <<< 8) +
          ((state.uart port.channel).indexed extOffset).setWidth 32),
        state.setIndexed port.channel acrOffset
          (Function.update (state.uart port.channel).indexed acrOffset
            (state.fields port.channel).acr)) := by
  simp [fastcomGetExternalTransmitFscc, Machine.run_bind, CardState.setIndexed]

def CardState.firmwareRevision (state : CardState) (channel : Nat) : BitVec 8 :=
  (state.bar0 (vstrAddress channel) &&& 0x000000ff).setWidth 8

@[simp] theorem run_fsccGetFrev (type : CardType) :
    (cardMachine type).run (fsccGetFrev port) state =
      (some (state.firmwareRevision port.channel), state) := by
  simp [fsccGetFrev, CardState.firmwareRevision]

theorem run_setFrameLengthFscc (numChars : BitVec 32)
    (inRange : ¬(numChars = 0 ∨ numChars > 256))
    (supported : ¬state.firmwareRevision port.channel < 0x20) :
    (cardMachine .fscc).run (fastcomSetFrameLengthFscc port numChars) state =
      (some 0, state.setIndexed port.channel flrOffset
        (Function.update (state.uart port.channel).indexed flrOffset
          ((numChars - 1).setWidth 8))) := by
  rw [fastcomSetFrameLengthFscc, if_neg inRange, Machine.run_bind,
    run_fsccGetFrev]
  simp only [if_neg supported]
  simp [Machine.run_bind, CardState.setIndexed]

theorem run_getFrameLengthFscc (numChars : BitVec 32)
    (supported : ¬state.firmwareRevision port.channel < 0x20) :
    (cardMachine .fscc).run (fastcomGetFrameLengthFscc port numChars) state =
      (some (0, ((state.uart port.channel).indexed flrOffset).setWidth 32 + 1),
        state.setIndexed port.channel acrOffset
          (Function.update (state.uart port.channel).indexed acrOffset
            (state.fields port.channel).acr)) := by
  rw [fastcomGetFrameLengthFscc, Machine.run_bind, run_fsccGetFrev]
  simp only [if_neg supported]
  simp [Machine.run_bind, CardState.setIndexed]

end Runs

end SerialFc
