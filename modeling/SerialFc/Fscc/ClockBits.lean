import SerialFc.Driver.ClockBits
import SerialFc.Foundation.Masks
import SerialFc.Foundation.ThreeWire
import Mathlib.Tactic.IntervalCases

/-! # The clock stream of an FSCC card

The values that `fastcom_set_clock_bits_fscc` writes to FCR, as the clock
generator on one channel sees them.
-/

namespace SerialFc

/-! ## The register access of the function -/

def CardState.pdev (state : CardState) (channel : Nat) : BitVec 16 :=
  ((state.bar0 (vstrAddress channel) &&& 0xffff0000) >>> 16).setWidth 16

def CardState.prev (state : CardState) (channel : Nat) : BitVec 8 :=
  ((state.bar0 (vstrAddress channel) &&& 0x0000ff00) >>> 8).setWidth 8

def CardState.xtalDisabled (state : CardState) (channel : Nat) : Bool :=
  decide (state.pdev channel = 0x0f ∧ state.prev channel ≤ 6 ∨
    state.pdev channel = 0x16)

def fcrWrites (trace : List Access) : List (BitVec 32) :=
  trace.filterMap fun
    | .iowrite32 .bar2 _ value => some value
    | _ => none

section Runs

variable (type : CardType) (port : Port) (state : CardState)

theorem run_fsccGetPdev :
    (cardMachine type).run (fsccGetPdev port) state =
      (some (state.pdev port.channel), state) := by
  simp [fsccGetPdev, CardState.read32, CardState.pdev]

theorem run_fsccGetPrev :
    (cardMachine type).run (fsccGetPrev port) state =
      (some (state.prev port.channel), state) := by
  simp [fsccGetPrev, CardState.read32, CardState.prev]

theorem run_xtalDisabled :
    (cardMachine type).run (xtalDisabled port) state =
      (some (state.xtalDisabled port.channel), state) := by
  by_cases green : state.pdev port.channel = 0x0f#16
  · by_cases old : state.prev port.channel ≤ 6#8
    · simp [xtalDisabled, Machine.run_bind, run_fsccGetPdev, run_fsccGetPrev,
        green, old, CardState.xtalDisabled]
    · simp [xtalDisabled, Machine.run_bind, run_fsccGetPdev, run_fsccGetPrev,
        green, old, CardState.xtalDisabled]
  · simp [xtalDisabled, Machine.run_bind, run_fsccGetPdev, green,
      CardState.xtalDisabled]

theorem xtalDisabled_performs {allowed : Access → Prop}
    (vstr : allowed (.ioread32 .bar0 (vstrAddress port.channel))) :
    (xtalDisabled port).Performs allowed := by
  have pdevPerforms : (fsccGetPdev port).Performs allowed :=
    ⟨vstr, fun _ => trivial⟩
  have prevPerforms : (fsccGetPrev port).Performs allowed :=
    ⟨vstr, fun _ => trivial⟩
  apply Program.performs_bind pdevPerforms
  intro pdev
  have finish : ∀ oldGreenCard : Bool,
      (if oldGreenCard then pure true else do
        let pdev ← fsccGetPdev port
        pure (decide (pdev = 0x16)) : Driver Bool).Performs allowed := by
    intro oldGreenCard
    cases oldGreenCard with
    | true => trivial
    | false => exact Program.performs_bind pdevPerforms fun _ => trivial
  by_cases green : pdev = 0x0f
  · simp only [if_pos green]
    exact Program.performs_bind prevPerforms fun prev => finish _
  · simp only [if_neg green]
    exact finish false

theorem iowrite32Rep_performs {allowed : Access → Prop}
    (bar : Bar) (offset : Nat) (values : List (BitVec 32))
    (write : ∀ value ∈ values, allowed (.iowrite32 bar offset value)) :
    (iowrite32Rep bar offset values).Performs allowed := by
  induction values with
  | nil => trivial
  | cons value values induction =>
      refine ⟨write value List.mem_cons_self, fun _ => ?_⟩
      exact induction fun later member =>
        write later (List.mem_cons_of_mem _ member)

theorem setClockBitsFscc_performs {allowed : Access → Prop}
    (vstr : allowed (.ioread32 .bar0 (vstrAddress port.channel)))
    (read : allowed (.ioread32 .bar2 0))
    (write : ∀ value, allowed (.iowrite32 .bar2 0 value))
    (clockData : Fin 20 → BitVec 8) (allocated : Bool) :
    (fastcomSetClockBitsFscc port clockData allocated).Performs allowed := by
  apply Program.performs_bind (xtalDisabled_performs port vstr)
  intro disabled
  cases allocated with
  | false => trivial
  | true =>
      have readPerforms : (ioread32 .bar2 0).Performs allowed :=
        ⟨read, fun _ => trivial⟩
      apply Program.performs_bind readPerforms
      intro origFcrValue
      generalize fcrClockData port.channel (forceXtal disabled clockData)
        origFcrValue = data
      apply Program.performs_bind
      · apply iowrite32Rep_performs
        exact fun value _ => write value
      · exact fun _ => Program.performs_pure _

theorem fcrWrites_eq_nil {trace : List Access}
    (quiet : ∀ access ∈ trace, access.writesRegister = false) :
    fcrWrites trace = [] := by
  apply List.filterMap_eq_nil_iff.mpr
  intro access member
  have noWrite := quiet access member
  cases access <;> simp_all [Access.writesRegister]

theorem getLast?_fcrClockData (channel : Nat) (clockData : Fin 20 → BitVec 8)
    (origFcrValue : BitVec 32) :
    (fcrClockData channel clockData origFcrValue).getLast? =
      some origFcrValue := by
  simp [fcrClockData]

theorem fcrWrites_append (first second : List Access) :
    fcrWrites (first ++ second) = fcrWrites first ++ fcrWrites second :=
  List.filterMap_append

theorem fcrWrites_iowrite32 (offset : Nat) (values : List (BitVec 32)) :
    fcrWrites (values.map (.iowrite32 .bar2 offset)) = values := by
  rw [fcrWrites, List.filterMap_map]
  exact List.filterMap_some

/-- The function ends with the FCR it found, whether or not memory was there
for the staging array. -/
theorem run_setClockBitsFscc (clockData : Fin 20 → BitVec 8)
    (allocated : Bool) :
    (cardMachine type).run (fastcomSetClockBitsFscc port clockData allocated)
        state =
      (some (if allocated then 0 else 1), state) := by
  cases allocated with
  | false =>
      simp [fastcomSetClockBitsFscc, run_xtalDisabled]
  | true =>
      simp [fastcomSetClockBitsFscc, Machine.run_bind, run_xtalDisabled,
        run_iowrite32Rep, getLast?_fcrClockData, CardState.read32]

theorem fcrWrites_setClockBitsFscc (clockData : Fin 20 → BitVec 8) :
    fcrWrites ((cardMachine type).trace
        (fastcomSetClockBitsFscc port clockData true) state) =
      fcrClockData port.channel
        (forceXtal (state.xtalDisabled port.channel) clockData) state.fcr := by
  have readsOnly : (xtalDisabled port).Performs
      fun access => access.writesRegister = false :=
    xtalDisabled_performs port rfl
  have quiet : fcrWrites ((cardMachine type).trace (xtalDisabled port) state) =
      [] := by
    apply fcrWrites_eq_nil
    intro access member
    rcases List.mem_map.mp member with ⟨step, stepMember, rfl⟩
    exact Machine.performs_steps _ readsOnly state _ stepMember
  have readTrace : (cardMachine type).trace (ioread32 .bar2 0) state =
      [.ioread32 .bar2 0] := rfl
  have readQuiet : fcrWrites [.ioread32 .bar2 0] = [] := rfl
  have doneTrace : ∀ next, fcrWrites ((cardMachine type).trace
      (pure 0 : Driver Int) next) = [] := fun _ => rfl
  have disabledRun := run_xtalDisabled type port state
  have readRun : (cardMachine type).run (ioread32 .bar2 0) state =
      (some state.fcr, state) := rfl
  rw [fastcomSetClockBitsFscc, Machine.trace_bind_of_run _ disabledRun,
    fcrWrites_append, quiet, List.nil_append]
  simp only [if_true]
  rw [Machine.trace_bind_of_run _ readRun, fcrWrites_append, readTrace, readQuiet,
    List.nil_append, Machine.trace_bind_of_run _ (run_iowrite32Rep _ _ 0 _),
    fcrWrites_append, trace_iowrite32Rep, fcrWrites_iowrite32, doneTrace,
    List.append_nil]

end Runs

/-! ## The staged array, bit by bit -/

def byteBits (byte : BitVec 8) : List Bool :=
  (List.range 8).reverse.map byte.getLsbD

def clockWordBits (clockData : Fin 20 → BitVec 8) : List Bool :=
  (List.finRange 20).reverse.flatMap fun i => byteBits (clockData i)

def fcrBitWrites (base dtaValue clkValue : BitVec 32) (bit : Bool) :
    List (BitVec 32) :=
  let raised := switchBits bit dtaValue base ||| clkValue
  [base, raised, raised &&& ~~~clkValue]

theorem length_clockWordBits (clockData : Fin 20 → BitVec 8) :
    (clockWordBits clockData).length = 160 := by
  simp [clockWordBits, byteBits]

section Staging

variable (origFcrValue dtaValue clkValue : BitVec 32)

theorem shiftBit_eq (bit : Bool) (data : List (BitVec 32)) :
    FcrStaging.shiftBit origFcrValue dtaValue clkValue bit
        ⟨data, origFcrValue &&& fcrKeepMask⟩ =
      ⟨data ++ fcrBitWrites (origFcrValue &&& fcrKeepMask) dtaValue clkValue bit,
        origFcrValue &&& fcrKeepMask⟩ := by
  simp [FcrStaging.shiftBit, fcrBitWrites, switchBits]

/-- The running image starts every bit from the same base, so the stores of
consecutive bits line up. -/
theorem foldl_shiftBit (bits : List Bool) (data : List (BitVec 32)) :
    bits.foldl
        (fun staging bit =>
          FcrStaging.shiftBit origFcrValue dtaValue clkValue bit staging)
        ⟨data, origFcrValue &&& fcrKeepMask⟩ =
      ⟨data ++ bits.flatMap
          (fcrBitWrites (origFcrValue &&& fcrKeepMask) dtaValue clkValue),
        origFcrValue &&& fcrKeepMask⟩ := by
  induction bits generalizing data with
  | nil => simp
  | cons bit bits induction =>
      rw [List.foldl_cons, shiftBit_eq, induction]
      simp

theorem shiftByte_eq (byte : BitVec 8) (data : List (BitVec 32)) :
    FcrStaging.shiftByte origFcrValue dtaValue clkValue byte
        ⟨data, origFcrValue &&& fcrKeepMask⟩ =
      ⟨data ++ (byteBits byte).flatMap
          (fcrBitWrites (origFcrValue &&& fcrKeepMask) dtaValue clkValue),
        origFcrValue &&& fcrKeepMask⟩ := by
  rw [← foldl_shiftBit, byteBits, List.foldl_map]
  rfl

theorem foldl_shiftByte (clockData : Fin 20 → BitVec 8) (bytes : List (Fin 20))
    (data : List (BitVec 32)) :
    bytes.foldl
        (fun staging i =>
          FcrStaging.shiftByte origFcrValue dtaValue clkValue (clockData i)
            staging)
        ⟨data, origFcrValue &&& fcrKeepMask⟩ =
      ⟨data ++ (bytes.flatMap fun i => byteBits (clockData i)).flatMap
          (fcrBitWrites (origFcrValue &&& fcrKeepMask) dtaValue clkValue),
        origFcrValue &&& fcrKeepMask⟩ := by
  induction bytes generalizing data with
  | nil => simp
  | cons i bytes induction =>
      rw [List.foldl_cons, shiftByte_eq, induction]
      simp

end Staging

def fcrStrobeWrite (channel : Nat) (origFcrValue : BitVec 32) : BitVec 32 :=
  (origFcrValue &&& fcrKeepMask ||| clockPin strbBase channel) &&&
    ~~~clockPin clkBase channel

theorem fcrClockData_eq (channel : Nat) (clockData : Fin 20 → BitVec 8)
    (origFcrValue : BitVec 32) :
    fcrClockData channel clockData origFcrValue =
      (origFcrValue &&& fcrKeepMask) ::
        ((clockWordBits clockData).flatMap
            (fcrBitWrites (origFcrValue &&& fcrKeepMask)
              (clockPin dtaBase channel) (clockPin clkBase channel)) ++
          [fcrStrobeWrite channel origFcrValue, origFcrValue]) := by
  simp only [fcrClockData, foldl_shiftByte]
  simp [clockWordBits, fcrStrobeWrite]

/-! ## The stream on the lines of a channel -/

def fcrLines (channel : Nat) (value : BitVec 32) : Lines :=
  let shift := if channel = 1 then 8 else 0
  { clock := value.getLsbD (shift + 1)
    data := value.getLsbD shift
    strobe := value.getLsbD (shift + 3) }

def otherClockPins (channel : Nat) : BitVec 32 :=
  if channel = 1 then 0x0000000f else 0x00000f00

section Lines

variable {channel : Nat} (small : channel < 2) (origFcrValue : BitVec 32)
include small

theorem fcrLines_base :
    fcrLines channel (origFcrValue &&& fcrKeepMask) = ⟨false, false, false⟩ := by
  interval_cases channel <;> simp [fcrLines, fcrKeepMask]

theorem fcrLines_strobeWrite :
    fcrLines channel (fcrStrobeWrite channel origFcrValue) =
      ⟨false, false, true⟩ := by
  interval_cases channel <;>
    simp [fcrLines, fcrStrobeWrite, fcrKeepMask, clockPin, strbBase, clkBase]

theorem map_fcrLines_bitWrites (bit : Bool) :
    (fcrBitWrites (origFcrValue &&& fcrKeepMask) (clockPin dtaBase channel)
        (clockPin clkBase channel) bit).map (fcrLines channel) =
      BitCell.stream ⟨false, bit⟩ := by
  interval_cases channel <;> cases bit <;>
    simp [fcrLines, fcrBitWrites, BitCell.stream, switchBits, fcrKeepMask,
      clockPin, dtaBase, clkBase]

/-- The lines of the whole stream are one cell for each bit of the word, then
the strobe. -/
theorem map_fcrLines_clockData (clockData : Fin 20 → BitVec 8) :
    (fcrClockData channel clockData origFcrValue).map (fcrLines channel) =
      ⟨false, false, false⟩ ::
        (((clockWordBits clockData).map (BitCell.mk false)).flatMap
            BitCell.stream ++
          [⟨false, false, true⟩, fcrLines channel origFcrValue]) := by
  have cells := map_fcrLines_bitWrites small origFcrValue
  simp only [fcrClockData_eq, List.map_cons, List.map_append, List.map_flatMap,
    fcrLines_base small, fcrLines_strobeWrite small, cells, List.flatMap_map,
    List.map_nil]

end Lines

theorem fcrBitWrites_and_of_disjoint {dtaValue clkValue mask : BitVec 32}
    (noData : dtaValue &&& mask = 0#32) (noClock : clkValue &&& mask = 0#32)
    {base value : BitVec 32} {bit : Bool}
    (member : value ∈ fcrBitWrites base dtaValue clkValue bit) :
    value &&& mask = base &&& mask := by
  have dataKept := switchBits_and_of_disjoint bit noData base
  have raisedKept := switchBits_and_of_disjoint true noClock
    (switchBits bit dtaValue base)
  have loweredKept := switchBits_and_of_disjoint false noClock
    (switchBits true clkValue (switchBits bit dtaValue base))
  simp only [fcrBitWrites, List.mem_cons, List.not_mem_nil, or_false] at member
  rcases member with rfl | rfl | rfl
  · rfl
  · exact raisedKept.trans dataKept
  · exact loweredKept.trans (raisedKept.trans dataKept)

theorem fcrClockData_and_of_disjoint {channel : Nat} {mask : BitVec 32}
    (noData : clockPin dtaBase channel &&& mask = 0#32)
    (noClock : clockPin clkBase channel &&& mask = 0#32)
    (noStrobe : clockPin strbBase channel &&& mask = 0#32)
    (clockData : Fin 20 → BitVec 8) (origFcrValue : BitVec 32)
    {value : BitVec 32}
    (member : value ∈
      (fcrClockData channel clockData origFcrValue).dropLast) :
    value &&& mask = origFcrValue &&& fcrKeepMask &&& mask := by
  have split : fcrClockData channel clockData origFcrValue =
      ((origFcrValue &&& fcrKeepMask) ::
        ((clockWordBits clockData).flatMap
            (fcrBitWrites (origFcrValue &&& fcrKeepMask)
              (clockPin dtaBase channel) (clockPin clkBase channel)) ++
          [fcrStrobeWrite channel origFcrValue])) ++ [origFcrValue] := by
    rw [fcrClockData_eq]
    simp
  rw [split, List.dropLast_concat] at member
  rcases List.mem_cons.mp member with rfl | later
  · rfl
  rcases List.mem_append.mp later with inBits | isStrobe
  · rcases List.mem_flatMap.mp inBits with ⟨bit, _, inBit⟩
    exact fcrBitWrites_and_of_disjoint noData noClock inBit
  · rw [List.mem_singleton.mp isStrobe]
    have strobeKept := switchBits_and_of_disjoint true noStrobe
      (origFcrValue &&& fcrKeepMask)
    have loweredKept := switchBits_and_of_disjoint false noClock
      (switchBits true (clockPin strbBase channel)
        (origFcrValue &&& fcrKeepMask))
    exact loweredKept.trans strobeKept

/-- The clock generator on the port's channel latches the clock word once, and
FCR is otherwise untouched: its remaining bits in every write, and the whole
of it in the last. -/
theorem setClockBitsFscc_received (port : Port) (small : port.channel < 2)
    (clockData : Fin 20 → BitVec 8) (state : CardState) :
    let word := forceXtal (state.xtalDisabled port.channel) clockData
    let writes := fcrWrites ((cardMachine .fscc).trace
      (fastcomSetClockBitsFscc port clockData true) state)
    let stream := writes.map (fcrLines port.channel)
    let start := Receiver.starting (fcrLines port.channel state.fcr)
    (start.receive stream).latches = [clockWordBits word] ∧
      (clockWordBits word).length = 160 ∧
      List.IsChain HeldOnFall stream ∧
      (∀ value ∈ writes.dropLast,
        value &&& fcrKeepMask = state.fcr &&& fcrKeepMask ∧
          value &&& otherClockPins port.channel = 0#32) ∧
      writes.getLast? = some state.fcr := by
  intro word writes stream start
  have writesEq : writes = fcrClockData port.channel word state.fcr :=
    fcrWrites_setClockBitsFscc .fscc port state clockData
  have streamEq : stream = ⟨false, false, false⟩ ::
      (((clockWordBits word).map (BitCell.mk false)).flatMap BitCell.stream ++
        [⟨false, false, true⟩, fcrLines port.channel state.fcr]) := by
    rw [← map_fcrLines_clockData small, ← writesEq]
  refine ⟨?_, length_clockWordBits word, ?_, ?_, ?_⟩
  · have afterLow : start.observe ⟨false, false, false⟩ =
        ⟨⟨false, false, false⟩, [], []⟩ := by
      simp [start, Receiver.starting, Receiver.observe_low]
    rcases BitCell.receive_cells ((clockWordBits word).map (BitCell.mk false))
      ⟨⟨false, false, false⟩, [], []⟩ rfl rfl with
      ⟨lines, _, strobeLow, received⟩
    rw [streamEq, Receiver.receive_cons, afterLow, Receiver.receive_append,
      received, Receiver.receive_cons, Receiver.receive_cons,
      Receiver.receive_nil, Receiver.observe_latches _ rfl]
    simp [Receiver.observe, strobeLow, Function.comp_def]
  · rw [streamEq]
    apply isChain_cells
    · intro before after clockLow _ clockHigh
      rw [clockLow] at clockHigh
      cases clockHigh
    · intro cell _
      refine ⟨?_, fun _ _ => rfl⟩
      intro clockHigh
      cases clockHigh
    · intro before clockLow
      simp [HeldOnFall, clockLow]
    · rfl
  · rw [writesEq]
    intro value member
    have channels : port.channel = 0 ∨ port.channel = 1 := by omega
    refine ⟨?_, ?_⟩
    · rw [fcrClockData_and_of_disjoint
        (by rcases channels with equal | equal <;> rw [equal] <;> decide)
        (by rcases channels with equal | equal <;> rw [equal] <;> decide)
        (by rcases channels with equal | equal <;> rw [equal] <;> decide)
        word state.fcr member, BitVec.and_assoc, BitVec.and_self]
    · rw [fcrClockData_and_of_disjoint
        (by rcases channels with equal | equal <;> rw [equal] <;> decide)
        (by rcases channels with equal | equal <;> rw [equal] <;> decide)
        (by rcases channels with equal | equal <;> rw [equal] <;> decide)
        word state.fcr member, BitVec.and_assoc]
      have noOtherPins : fcrKeepMask &&& otherClockPins port.channel = 0#32 := by
        rcases channels with equal | equal <;> rw [equal] <;> decide
      rw [noOtherPins, BitVec.and_zero]
  · rw [writesEq, getLast?_fcrClockData]

/-- A word programmed on channel 1 while every bit of FCR is set. -/
theorem setClockBitsFscc_received_allOnes :
    let port : Port := ⟨Card.ofDevice fsccId 2, 1⟩
    let state : CardState := { CardState.blank with fcr := 0xffffffff }
    let writes := fcrWrites ((cardMachine .fscc).trace
      (fastcomSetClockBitsFscc port (fun _ => 0x5a) true) state)
    let start := Receiver.starting (fcrLines 1 0xffffffff)
    (∃ bits, (start.receive (writes.map (fcrLines 1))).latches = [bits] ∧
        bits.length = 160) ∧
      writes.getLast? = some 0xffffffff := by
  intro port state writes start
  have received := setClockBitsFscc_received port (by decide) (fun _ => 0x5a)
    state
  exact ⟨⟨_, received.1, received.2.1⟩, received.2.2.2.2⟩

end SerialFc
