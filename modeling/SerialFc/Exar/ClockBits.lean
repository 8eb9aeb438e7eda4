import SerialFc.Driver.ClockBits
import SerialFc.Exar.Registers
import SerialFc.Foundation.ThreeWire

/-! # The clock stream of a PCI card

The values that `fastcom_set_clock_bits_pci` writes to MPIOLVL, as the clock
generator sees them.
-/

namespace SerialFc

def mpiolvlLines (value : BitVec 8) : Lines where
  clock := value.getLsbD 1
  data := value.getLsbD 0
  strobe := value.getLsbD 2

def mpiolvlWrites (trace : List Access) : List (BitVec 8) :=
  trace.filterMap fun
    | .iowrite8 _ offset value =>
        if offset = mpiolvlOffset then some value else none
    | _ => none

/-- The bits that the loop takes from a word, the top one of 24 first. -/
def shiftedBits : Nat → BitVec 64 → List Bool
  | 0, _ => []
  | remaining + 1, word =>
      word.getLsbD 23 :: shiftedBits remaining (word <<< 1)

def clockWordBitsPci (clockData : BitVec 32) : List Bool :=
  (List.range 24).reverse.map clockData.getLsbD

theorem shiftedBits_eq (remaining : Nat) (word : BitVec 64)
    (small : remaining ≤ 24) :
    shiftedBits remaining word =
      (List.range remaining).map fun position => word.getLsbD (23 - position) := by
  induction remaining generalizing word with
  | zero => rfl
  | succ remaining induction =>
      rw [shiftedBits, induction _ (by omega), List.range_succ_eq_map,
        List.map_cons, List.map_map]
      congr 1
      apply List.map_congr_left
      intro position inRange
      have below : position < remaining := List.mem_range.mp inRange
      have inside : 23 - position < 64 := by omega
      have positive : ¬23 - position < 1 := by omega
      have shifted : 23 - position - 1 = 23 - (position + 1) := by omega
      simp only [Function.comp_apply, BitVec.getLsbD_shiftLeft, inside, positive,
        shifted, decide_true, decide_false, Bool.not_false, Bool.true_and]

theorem shiftedBits_clockData (clockData : BitVec 32) :
    shiftedBits 24 ((clockData &&& 0x00ffffff).setWidth 64) =
      clockWordBitsPci clockData := by
  rw [shiftedBits_eq _ _ (Nat.le_refl 24)]
  simp [clockWordBitsPci, List.range_succ]

theorem length_clockWordBitsPci (clockData : BitVec 32) :
    (clockWordBitsPci clockData).length = 24 := by
  simp [clockWordBitsPci]

/-! ## The writes of the loop -/

def mpiolvlBitWrites (bit : Bool) (data : BitVec 8) : List (BitVec 8) :=
  let driven := switchBits bit mpioSdta data
  [driven, driven ||| mpioSclk, (driven ||| mpioSclk) &&& mpioSdta]

/-- The image of MPIOLVL after a bit keeps the data line only. -/
def afterBit (bit : Bool) (data : BitVec 8) : BitVec 8 :=
  (switchBits bit mpioSdta data ||| mpioSclk) &&& mpioSdta

def mpiolvlShift : List Bool → BitVec 8 → List (BitVec 8) × BitVec 8
  | [], data => ([], data)
  | bit :: bits, data =>
      let rest := mpiolvlShift bits (afterBit bit data)
      (mpiolvlBitWrites bit data ++ rest.1, rest.2)

section Runs

variable (port : Port) (state : CardState)

theorem run_writeMpiolvl (value : BitVec 8) :
    (cardMachine .pci).run (iowrite8 port mpiolvlOffset value) state =
      (some (), state.setConfig mpiolvlOffset value) := by
  simp

@[simp] theorem setConfig_setConfig (offset : Nat) (first second : BitVec 8) :
    (state.setConfig offset first).setConfig offset second =
      state.setConfig offset second := by
  simp [CardState.setConfig]

theorem setConfig_self (offset : Nat) :
    state.setConfig offset (state.config offset) = state := by
  simp [CardState.setConfig]

theorem mpiolvlWrites_append (first second : List Access) :
    mpiolvlWrites (first ++ second) =
      mpiolvlWrites first ++ mpiolvlWrites second :=
  List.filterMap_append

theorem mpiolvlWrites_iowrite8 (channel : Nat) (value : BitVec 8) :
    mpiolvlWrites [.iowrite8 channel mpiolvlOffset value] = [value] := rfl

theorem driveBit_eq (word : BitVec 64) (data : BitVec 8) :
    (if word &&& 0x800000 ≠ 0 then data ||| mpioSdta
      else data &&& ~~~mpioSdta) =
      switchBits (word.getLsbD 23) mpioSdta data := by
  have top := anySet_shiftedOne (show 23 < 64 by decide) word
  have mask : 1#64 <<< 23 = 0x800000 := by decide
  rw [mask, anySet] at top
  rw [← top, switchBits]
  simp

theorem run_shiftClockBitsPci (remaining : Nat) (word : BitVec 64)
    (data : BitVec 8) :
    ∃ last, (cardMachine .pci).run
        (shiftClockBitsPci port remaining word data) state =
      (some (mpiolvlShift (shiftedBits remaining word) data).2,
        state.setConfig mpiolvlOffset last) ∧
      mpiolvlWrites ((cardMachine .pci).trace
        (shiftClockBitsPci port remaining word data) state) =
        (mpiolvlShift (shiftedBits remaining word) data).1 := by
  induction remaining generalizing word data state with
  | zero =>
      refine ⟨state.config mpiolvlOffset, ?_, rfl⟩
      rw [setConfig_self]
      rfl
  | succ remaining induction =>
      have written : ∀ (value : BitVec 8) (state : CardState),
          (cardMachine .pci).trace (iowrite8 port mpiolvlOffset value) state =
            [.iowrite8 port.channel mpiolvlOffset value] := fun _ _ => rfl
      rcases induction (state.setConfig mpiolvlOffset
          (afterBit (word.getLsbD 23) data)) (word <<< 1)
          (afterBit (word.getLsbD 23) data) with ⟨last, run, writes⟩
      refine ⟨last, ?_, ?_⟩
      · simp only [shiftClockBitsPci, Machine.run_bind, run_writeMpiolvl,
          driveBit_eq, setConfig_setConfig]
        simpa [afterBit, mpiolvlShift, shiftedBits] using run
      · simp only [shiftClockBitsPci, Machine.trace_bind, run_writeMpiolvl,
          driveBit_eq, setConfig_setConfig, written, mpiolvlWrites_append,
          mpiolvlWrites_iowrite8]
        simpa [afterBit, mpiolvlShift, mpiolvlBitWrites, shiftedBits] using writes

theorem run_setClockBitsPci (clockData : BitVec 32) :
    (cardMachine .pci).run (fastcomSetClockBitsPci port clockData) state =
      (some 0, state) := by
  rcases run_shiftClockBitsPci port state 24
    ((clockData &&& 0x00ffffff).setWidth 64) (state.config mpiolvlOffset) with
    ⟨last, run, _⟩
  have readRun : (cardMachine .pci).run (ioread8 port mpiolvlOffset) state =
      (some (state.config mpiolvlOffset), state) := by simp
  simp only [fastcomSetClockBitsPci, Machine.run_bind, readRun, run,
    run_writeMpiolvl, setConfig_setConfig, setConfig_self, Machine.run_pure]

theorem mpiolvlWrites_setClockBitsPci (clockData : BitVec 32) :
    let saved := state.config mpiolvlOffset
    let shift := mpiolvlShift (clockWordBitsPci clockData) saved
    mpiolvlWrites ((cardMachine .pci).trace
        (fastcomSetClockBitsPci port clockData) state) =
      shift.1 ++ [shift.2 &&& 0xf8 ||| mpioSstb,
        (shift.2 &&& 0xf8 ||| mpioSstb) &&& ~~~mpioSstb, saved] := by
  intro saved shift
  rcases run_shiftClockBitsPci port state 24
    ((clockData &&& 0x00ffffff).setWidth 64) saved with ⟨last, run, writes⟩
  rw [shiftedBits_clockData] at run writes
  have readRun : (cardMachine .pci).run (ioread8 port mpiolvlOffset) state =
      (some saved, state) := by simp [saved]
  have readTrace : mpiolvlWrites ((cardMachine .pci).trace
      (ioread8 port mpiolvlOffset) state) = [] := rfl
  have written : ∀ (value : BitVec 8) (state : CardState),
      (cardMachine .pci).trace (iowrite8 port mpiolvlOffset value) state =
        [.iowrite8 port.channel mpiolvlOffset value] := fun _ _ => rfl
  have doneTrace : ∀ state, (cardMachine .pci).trace
      (pure 0 : Driver Int) state = [] := fun _ => rfl
  simp only [fastcomSetClockBitsPci, Machine.trace_bind, readRun, run,
    run_writeMpiolvl, mpiolvlWrites_append, readTrace, written, writes,
    mpiolvlWrites_iowrite8, doneTrace]
  rfl

end Runs

/-! ## The stream on the lines -/

section Lines

variable {data : BitVec 8}

theorem map_mpiolvlLines_bitWrites (clockLow : data.getLsbD 1 = false)
    (strobeLow : data.getLsbD 2 = false) (bit : Bool) :
    (mpiolvlBitWrites bit data).map mpiolvlLines = BitCell.stream ⟨bit, bit⟩ := by
  have driven := getLsbD_switchBits bit mpioSdta data
  simp only [mpiolvlBitWrites, List.map_cons, List.map_nil, mpiolvlLines,
    BitVec.getLsbD_or, BitVec.getLsbD_and, driven]
  simp only [clockLow, strobeLow]
  simp [BitCell.stream, mpioSdta, mpioSclk]

theorem afterBit_low (data : BitVec 8) (bit : Bool) :
    (afterBit bit data).getLsbD 1 = false ∧
      (afterBit bit data).getLsbD 2 = false := by
  simp [afterBit, mpioSdta]

theorem map_mpiolvlLines_shift (bits : List Bool)
    (clockLow : data.getLsbD 1 = false) (strobeLow : data.getLsbD 2 = false) :
    (mpiolvlShift bits data).1.map mpiolvlLines =
      (bits.map fun bit => BitCell.mk bit bit).flatMap BitCell.stream := by
  induction bits generalizing data with
  | nil => rfl
  | cons bit bits induction =>
      have low := afterBit_low data bit
      rw [mpiolvlShift, List.map_append,
        map_mpiolvlLines_bitWrites clockLow strobeLow, induction low.1 low.2]
      rfl

theorem mpiolvlLines_strobe :
    mpiolvlLines (data &&& 0xf8 ||| mpioSstb) = ⟨false, false, true⟩ := by
  simp [mpiolvlLines, mpioSstb]

theorem mpiolvlLines_off :
    mpiolvlLines ((data &&& 0xf8 ||| mpioSstb) &&& ~~~mpioSstb) =
      ⟨false, false, false⟩ := by
  simp [mpiolvlLines, mpioSstb]

end Lines

/-- The clock generator samples the word once, most significant bit first, and
latches it once, with MPIOLVL put back in the end. -/
theorem setClockBitsPci_stream (port : Port) (clockData : BitVec 32)
    (state : CardState)
    (clockLow : (state.config mpiolvlOffset).getLsbD 1 = false)
    (strobeLow : (state.config mpiolvlOffset).getLsbD 2 = false) :
    let saved := state.config mpiolvlOffset
    let writes := mpiolvlWrites ((cardMachine .pci).trace
      (fastcomSetClockBitsPci port clockData) state)
    let received := (Receiver.starting (mpiolvlLines saved)).receive
      (writes.map mpiolvlLines)
    received.samples = clockWordBitsPci clockData ∧
      received.latches = [clockWordBitsPci clockData] ∧
      List.IsChain StableOnRise ((saved :: writes).map mpiolvlLines) ∧
      writes.getLast? = some saved := by
  intro saved writes received
  let cells := (clockWordBitsPci clockData).map fun bit => BitCell.mk bit bit
  have writesEq : writes = _ :=
    mpiolvlWrites_setClockBitsPci port state clockData
  have streamEq : writes.map mpiolvlLines = cells.flatMap BitCell.stream ++
      [⟨false, false, true⟩, ⟨false, false, false⟩, mpiolvlLines saved] := by
    rw [writesEq, List.map_append,
      map_mpiolvlLines_shift _ clockLow strobeLow]
    simp only [List.map_cons, List.map_nil, mpiolvlLines_strobe,
      mpiolvlLines_off]
    rfl
  rcases BitCell.receive_cells cells (Receiver.starting (mpiolvlLines saved))
    clockLow strobeLow with ⟨lines, low, strobe, shifted⟩
  have receivedEq : received = ⟨mpiolvlLines saved, clockWordBitsPci clockData,
      [clockWordBitsPci clockData]⟩ := by
    have savedLow : mpiolvlLines saved =
        ⟨false, (mpiolvlLines saved).data, false⟩ := by
      simp only [mpiolvlLines, saved, clockLow, strobeLow]
    simp only [received, streamEq, Receiver.receive_append, shifted,
      Receiver.receive_cons, Receiver.receive_nil]
    rw [savedLow]
    simp [Receiver.observe, strobe, Receiver.starting, cells, Function.comp_def]
  refine ⟨by rw [receivedEq], by rw [receivedEq], ?_, ?_⟩
  · rw [List.map_cons, streamEq]
    apply isChain_cells
    · intro before after _ afterLow _ afterHigh
      rw [afterLow] at afterHigh
      cases afterHigh
    · intro cell member
      rcases List.mem_map.mp member with ⟨bit, _, rfl⟩
      refine ⟨fun _ _ => rfl, ?_⟩
      intro clockLow
      cases clockLow
    · intro before _
      have savedClock : (mpiolvlLines saved).clock = false := clockLow
      simp [StableOnRise, savedClock]
    · exact clockLow
  · rw [writesEq]
    simp [saved]

/-! ## The other pins of MPIOLVL -/

/-- The bits of MPIOLVL above the clock generator's: RS485 driver enables and
echo cancel. -/
def mpioPortPins : BitVec 8 := 0xf8

/-- Programming the clock never changes a pin that is not the clock
generator's, not even on the way. -/
def ClockKeepsPins (port : Port) (clockData : BitVec 32) (state : CardState) :
    Prop :=
  let saved := state.config mpiolvlOffset
  ∀ value ∈ mpiolvlWrites ((cardMachine .pci).trace
      (fastcomSetClockBitsPci port clockData) state),
    value &&& mpioPortPins = saved &&& mpioPortPins

section Pins

theorem switchBits_sdta_pins (bit : Bool) (data : BitVec 8) :
    switchBits bit mpioSdta data &&& mpioPortPins = data &&& mpioPortPins :=
  switchBits_and_of_disjoint bit (by decide) data

theorem or_sclk_pins (data : BitVec 8) :
    (data ||| mpioSclk) &&& mpioPortPins = data &&& mpioPortPins :=
  switchBits_and_of_disjoint true (by decide) data

theorem or_sstb_pins (data : BitVec 8) :
    (data ||| mpioSstb) &&& mpioPortPins = data &&& mpioPortPins :=
  switchBits_and_of_disjoint true (by decide) data

theorem and_not_sstb_pins (data : BitVec 8) :
    data &&& ~~~mpioSstb &&& mpioPortPins = data &&& mpioPortPins :=
  switchBits_and_of_disjoint false (by decide) data

theorem and_sdta_pins (data : BitVec 8) :
    data &&& mpioSdta &&& mpioPortPins = 0#8 := by
  have disjoint : mpioSdta &&& mpioPortPins = 0#8 := by decide
  rw [BitVec.and_assoc, disjoint, BitVec.and_zero]

theorem afterBit_pins (bit : Bool) (data : BitVec 8) :
    afterBit bit data &&& mpioPortPins = 0#8 :=
  and_sdta_pins _

theorem mpiolvlShift_pins (bits : List Bool) {data : BitVec 8}
    (low : data &&& mpioPortPins = 0#8) :
    (∀ value ∈ (mpiolvlShift bits data).1, value &&& mpioPortPins = 0#8) ∧
      (mpiolvlShift bits data).2 &&& mpioPortPins = 0#8 := by
  induction bits generalizing data with
  | nil =>
      refine ⟨?_, low⟩
      intro value member
      cases member
  | cons bit bits induction =>
      have rest := induction (afterBit_pins bit data)
      refine ⟨?_, rest.2⟩
      intro value member
      rcases List.mem_append.mp member with early | late
      · simp only [mpiolvlBitWrites, List.mem_cons, List.not_mem_nil, or_false]
          at early
        rcases early with rfl | rfl | rfl
        · rw [switchBits_sdta_pins, low]
        · rw [or_sclk_pins, switchBits_sdta_pins, low]
        · exact and_sdta_pins _
      · exact rest.1 value late

theorem afterBit_mem_mpiolvlShift (bit : Bool) (bits : List Bool)
    (data : BitVec 8) :
    afterBit bit data ∈ (mpiolvlShift (bit :: bits) data).1 := by
  apply List.mem_append_left
  simp [mpiolvlBitWrites, afterBit]

theorem clockWordBitsPci_ne_nil (clockData : BitVec 32) :
    clockWordBitsPci clockData ≠ [] := by
  intro empty
  have length := length_clockWordBitsPci clockData
  rw [empty] at length
  cases length

theorem ClockKeepsPins.low {port : Port} {clockData : BitVec 32}
    {state : CardState} (keeps : ClockKeepsPins port clockData state) :
    state.config mpiolvlOffset &&& mpioPortPins = 0#8 := by
  rw [ClockKeepsPins, mpiolvlWrites_setClockBitsPci] at keeps
  rcases bits : clockWordBitsPci clockData with _ | ⟨bit, rest⟩
  · exact absurd bits (clockWordBitsPci_ne_nil clockData)
  · have member := afterBit_mem_mpiolvlShift bit rest
      (state.config mpiolvlOffset)
    rw [← bits] at member
    have kept := keeps _ (List.mem_append_left _ member)
    rw [afterBit_pins] at kept
    exact kept.symm

end Pins

/-- The loop lowers the clock by keeping the data line alone, so the other pins
are kept exactly if they are all low. -/
theorem clockKeepsPins_iff (port : Port) (clockData : BitVec 32)
    (state : CardState) :
    ClockKeepsPins port clockData state ↔
      state.config mpiolvlOffset &&& mpioPortPins = 0#8 := by
  constructor
  · exact fun keeps => keeps.low
  · intro low
    rw [ClockKeepsPins, mpiolvlWrites_setClockBitsPci]
    intro value member
    have shift := mpiolvlShift_pins (clockWordBitsPci clockData) low
    rw [low]
    rcases List.mem_append.mp member with early | late
    · exact shift.1 value early
    · generalize (mpiolvlShift (clockWordBitsPci clockData)
        (state.config mpiolvlOffset)).2 = data at shift late
      have cleared : data &&& 0xf8 &&& mpioPortPins = 0#8 := by
        rw [BitVec.and_assoc]
        exact shift.2
      simp only [List.mem_cons, List.not_mem_nil, or_false] at late
      rcases late with rfl | rfl | rfl
      · rw [or_sstb_pins, cleared]
      · rw [and_not_sstb_pins, or_sstb_pins, cleared]
      · exact low

/-- RS485 driver enables that are off, and echo cancel that is on, are high. -/
theorem not_clockKeepsPins :
    ¬ClockKeepsPins ⟨Card.ofDevice fc422_2Pci335Id 2, 0⟩ 0x100801
      { CardState.blank with config := fun _ => 0x98 } := by
  intro keeps
  exact absurd keeps.low (by decide)

end SerialFc
