import Mathlib.Data.List.Chain

/-! # Three-wire serial receivers

A receiver watches a clock, a data and a strobe line. It samples the data line
at each rising edge of the clock, and latches what it has sampled at each
rising edge of the strobe. A sender that wraps every bit in a clock pulse is
understood bit by bit.
-/

namespace SerialFc

structure Lines where
  clock : Bool
  data : Bool
  strobe : Bool

/-- The lines as last seen, the samples so far and what each strobe latched,
oldest first. -/
structure Receiver where
  lines : Lines
  samples : List Bool
  latches : List (List Bool)

namespace Receiver

def observe (receiver : Receiver) (lines : Lines) : Receiver :=
  let samples :=
    if !receiver.lines.clock && lines.clock then
      receiver.samples ++ [lines.data]
    else receiver.samples
  let latches :=
    if !receiver.lines.strobe && lines.strobe then
      receiver.latches ++ [samples]
    else receiver.latches
  { lines, samples, latches }

def receive (receiver : Receiver) (stream : List Lines) : Receiver :=
  stream.foldl observe receiver

def starting (lines : Lines) : Receiver := ⟨lines, [], []⟩

variable (receiver : Receiver)

@[simp] theorem receive_nil : receiver.receive [] = receiver := rfl

@[simp] theorem receive_cons (lines : Lines) (stream : List Lines) :
    receiver.receive (lines :: stream) =
      (receiver.observe lines).receive stream := rfl

@[simp] theorem receive_append (first second : List Lines) :
    receiver.receive (first ++ second) =
      (receiver.receive first).receive second := by
  simp [receive]

theorem observe_low {lines : Lines} (clockLow : lines.clock = false)
    (strobeLow : lines.strobe = false) :
    receiver.observe lines = { receiver with lines } := by
  simp [observe, clockLow, strobeLow]

theorem observe_latches {lines : Lines}
    (strobeWasHigh : receiver.lines.strobe = true) :
    (receiver.observe lines).latches = receiver.latches := by
  simp [observe, strobeWasHigh]

end Receiver

/-! ## Bits in clock pulses -/

/-- One bit on the wire: some level before the clock rises, then the bit while
it is high and still when it is low again. -/
structure BitCell where
  idle : Bool
  bit : Bool

namespace BitCell

def stream (cell : BitCell) : List Lines :=
  [⟨false, cell.idle, false⟩, ⟨true, cell.bit, false⟩, ⟨false, cell.bit, false⟩]

theorem receive_cells (cells : List BitCell) (receiver : Receiver)
    (clockLow : receiver.lines.clock = false)
    (strobeLow : receiver.lines.strobe = false) :
    ∃ lines : Lines, lines.clock = false ∧ lines.strobe = false ∧
      receiver.receive (cells.flatMap stream) =
        { lines, samples := receiver.samples ++ cells.map bit,
          latches := receiver.latches } := by
  induction cells generalizing receiver with
  | nil => exact ⟨receiver.lines, clockLow, strobeLow, by simp⟩
  | cons cell cells induction =>
      have afterCell : receiver.receive cell.stream =
          { lines := ⟨false, cell.bit, false⟩,
            samples := receiver.samples ++ [cell.bit],
            latches := receiver.latches } := by
        simp [stream, Receiver.observe]
      rcases induction (receiver.receive cell.stream)
        (by rw [afterCell]) (by rw [afterCell]) with
        ⟨lines, low, strobeStillLow, received⟩
      refine ⟨lines, low, strobeStillLow, ?_⟩
      rw [List.flatMap_cons, Receiver.receive_append, received, afterCell]
      simp

end BitCell

/-! ## Set-up and hold -/

def HeldOnFall (before after : Lines) : Prop :=
  before.clock = true → after.clock = false → after.data = before.data

def StableOnRise (before after : Lines) : Prop :=
  before.clock = false → after.clock = true → after.data = before.data

/-- A relation of consecutive levels holds along a stream of cells if it holds
inside each cell and between any two levels with a low clock. -/
theorem isChain_cells {related : Lines → Lines → Prop}
    (betweenLow : ∀ before after : Lines, before.clock = false →
      after.clock = false → related before after)
    (cells : List BitCell)
    (inside : ∀ cell ∈ cells,
      related ⟨false, cell.idle, false⟩ ⟨true, cell.bit, false⟩ ∧
        related ⟨true, cell.bit, false⟩ ⟨false, cell.bit, false⟩)
    {rest : List Lines}
    (afterwards : ∀ before : Lines, before.clock = false →
      List.IsChain related (before :: rest))
    {before : Lines} (clockLow : before.clock = false) :
    List.IsChain related (before :: (cells.flatMap BitCell.stream ++ rest)) := by
  induction cells generalizing before with
  | nil => exact afterwards before clockLow
  | cons cell cells induction =>
      have cellInside := inside cell List.mem_cons_self
      have others : List.IsChain related
          (⟨false, cell.bit, false⟩ :: (cells.flatMap BitCell.stream ++ rest)) :=
        induction
          (fun other member => inside other (List.mem_cons_of_mem _ member)) rfl
      simp only [List.flatMap_cons, BitCell.stream, List.cons_append,
        List.nil_append, List.isChain_cons_cons]
      exact ⟨betweenLow _ _ clockLow rfl, cellInside.1, cellInside.2, others⟩

end SerialFc
