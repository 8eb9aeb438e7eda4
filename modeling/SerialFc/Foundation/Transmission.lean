import SerialFc.Foundation.Program
import SerialFc.Foundation.ThreeWire

/-! # Words that programs send

The state of a machine drives the three lines of a receiver. While a program
runs the receiver sees the levels after each command, and most commands leave
them as they are. A program sends words if any receiver on those lines latches
these and no others, whatever it has sampled before.
-/

namespace SerialFc

/-! ## Strobes -/

def NoStrobe (before after : Lines) : Prop :=
  before.strobe = true ∨ after.strobe = false

theorem isChain_noStrobe {first : Lines} {stream : List Lines}
    (low : ∀ lines ∈ stream, lines.strobe = false) :
    List.IsChain NoStrobe (first :: stream) := by
  induction stream generalizing first with
  | nil => exact List.isChain_singleton first
  | cons lines stream induction =>
      apply List.isChain_cons_cons.mpr
      constructor
      · exact .inr (low lines List.mem_cons_self)
      · exact induction fun later member => low later (List.mem_cons_of_mem _ member)

namespace Receiver

theorem observe_latches_of_noStrobe {receiver : Receiver} {lines : Lines}
    (noStrobe : NoStrobe receiver.lines lines) :
    (receiver.observe lines).latches = receiver.latches := by
  rcases noStrobe with wasHigh | low
  · exact receiver.observe_latches wasHigh
  · simp [observe, low]

theorem observe_same (receiver : Receiver) :
    receiver.observe receiver.lines = receiver := by
  simp [observe]

theorem receive_latches_of_noStrobe {receiver : Receiver} {stream : List Lines}
    (noStrobe : List.IsChain NoStrobe (receiver.lines :: stream)) :
    (receiver.receive stream).latches = receiver.latches := by
  induction stream generalizing receiver with
  | nil => rfl
  | cons lines stream induction =>
      rcases List.isChain_cons_cons.mp noStrobe with ⟨first, rest⟩
      rw [receive_cons, ← observe_latches_of_noStrobe first]
      exact induction rest

theorem receive_word {receiver : Receiver}
    (clockLow : receiver.lines.clock = false)
    (strobeLow : receiver.lines.strobe = false) (cells : List BitCell)
    {rest : List Lines}
    (noStrobe : List.IsChain NoStrobe (⟨false, false, true⟩ :: rest)) :
    (receiver.receive
        (cells.flatMap BitCell.stream ++ ⟨false, false, true⟩ :: rest)).latches =
      receiver.latches ++ [receiver.samples ++ cells.map BitCell.bit] := by
  rcases BitCell.receive_cells cells receiver clockLow strobeLow with
    ⟨lines, low, strobe, received⟩
  rw [receive_append, received, receive_cons]
  refine (receive_latches_of_noStrobe noStrobe).trans ?_
  simp [observe, strobe]

end Receiver

variable {Command : Type} {Response : Command → Type} {State α β Word : Type}

namespace Machine

/-! ## Commands that keep a part of the state -/

section Keeping

variable {machine : Machine Command Response State} {state : State}

/-- If what is allowed depends on a part of the state only, and nothing that is
allowed changes that part, no step of a program that keeps to it does. -/
theorem forall_steps_of_allowed {same : State → State → Prop}
    {allowed : State → Command → Prop}
    (keeps : ∀ state command, allowed state command →
      same state (machine.execute state command).2)
    (stays : ∀ before after command, same before after →
      allowed before command → allowed after command)
    {program : Program Command Response α}
    (performs : program.Performs (allowed state)) :
    ∀ step ∈ machine.steps program state,
      same step.1 (machine.execute step.1 step.2).2 := by
  induction program generalizing state with
  | done value =>
      intro step member
      cases member
  | perform command next induction =>
      have first := keeps state command performs.1
      intro step member
      rcases List.mem_cons.mp member with isFirst | later
      · rw [isFirst]
        exact first
      · exact induction _
          ((performs.2 _).mono fun command => stays _ _ command first) step later
  | trap =>
      intro step member
      cases member

theorem forall_steps_of_read {holds : State × Command → Prop} {command : Command}
    {rest : Response command → Program Command Response α}
    (reads : (machine.execute state command).2 = state)
    (first : holds (state, command))
    (later : ∀ step ∈
      machine.steps (rest (machine.execute state command).1) state, holds step) :
    ∀ step ∈ machine.steps (.perform command .done >>= rest) state,
      holds step := by
  have split : machine.steps (.perform command .done >>= rest) state =
      (state, command) ::
        machine.steps (rest (machine.execute state command).1)
          (machine.execute state command).2 := rfl
  rw [split, reads]
  intro step member
  rcases List.mem_cons.mp member with isFirst | isLater
  · rw [isFirst]
    exact first
  · exact later step isLater

end Keeping

/-! ## Levels of a run -/

variable (machine : Machine Command Response State) (lines : State → Lines)

def levels (program : Program Command Response α) (state : State) : List Lines :=
  (machine.steps program state).map fun step =>
    lines (machine.execute step.1 step.2).2

variable {machine lines}

theorem levels_perform (command : Command)
    (next : Response command → Program Command Response α) (state : State) :
    machine.levels lines (.perform command next) state =
      lines (machine.execute state command).2 ::
        machine.levels lines (next (machine.execute state command).1)
          (machine.execute state command).2 := rfl

theorem levels_bind {program : Program Command Response α} {state next : State}
    {value : α} (run : machine.run program state = (some value, next))
    (continuation : α → Program Command Response β) :
    machine.levels lines (program >>= continuation) state =
      machine.levels lines program state ++
        machine.levels lines (continuation value) next := by
  rw [levels, steps_bind, run, List.map_append]
  rfl

theorem receive_levels_lines (program : Program Command Response α)
    {state : State} {receiver : Receiver} (seen : receiver.lines = lines state) :
    (receiver.receive (machine.levels lines program state)).lines =
      lines (machine.run program state).2 := by
  induction program generalizing state receiver with
  | done value => exact seen
  | perform command next induction => exact induction _ rfl
  | trap => exact seen

/-- Commands that leave the lines alone can be left out. -/
theorem receive_levels {written : Command → Option Lines}
    (writes : ∀ state command level, written command = some level →
      lines (machine.execute state command).2 = level)
    (keeps : ∀ state command, written command = none →
      lines (machine.execute state command).2 = lines state)
    (program : Program Command Response α) {state : State} {receiver : Receiver}
    (seen : receiver.lines = lines state) :
    receiver.receive (machine.levels lines program state) =
      receiver.receive ((machine.trace program state).filterMap written) := by
  induction program generalizing state receiver with
  | done value => rfl
  | perform command next induction =>
      have traceEq : machine.trace (.perform command next) state =
          command :: machine.trace (next (machine.execute state command).1)
            (machine.execute state command).2 := rfl
      rw [levels_perform, traceEq, Receiver.receive_cons]
      cases isWritten : written command with
      | some level =>
          rw [List.filterMap_cons_some isWritten, Receiver.receive_cons,
            ← writes state command level isWritten]
          exact induction _ rfl
      | none =>
          rw [List.filterMap_cons_none isWritten,
            keeps state command isWritten, ← seen, Receiver.observe_same]
          exact induction _ (seen.trans (keeps state command isWritten).symm)
  | trap => rfl

/-! ## Sending -/

variable (machine lines)

/-- Run from the state, the program makes a receiver latch the words. -/
def Sends (decode : List Bool → Word) (program : Program Command Response α)
    (state : State) (words : List Word) : Prop :=
  ∀ receiver : Receiver, receiver.lines = lines state →
    (receiver.receive (machine.levels lines program state)).latches.map decode =
      receiver.latches.map decode ++ words

variable {machine lines} {decode : List Bool → Word}

theorem sends_pure (value : α) (state : State) :
    machine.Sends lines decode (pure value : Program Command Response α) state
      [] := by
  intro receiver _
  exact (List.append_nil _).symm

theorem sends_nil {program : Program Command Response α} {state : State}
    (quiet : ∀ step ∈ machine.steps program state,
      lines (machine.execute step.1 step.2).2 = lines step.1) :
    machine.Sends lines decode program state [] := by
  intro receiver seen
  have unchanged : receiver.receive (machine.levels lines program state) =
      receiver := by
    induction program generalizing state receiver with
    | done value => rfl
    | perform command next induction =>
        have first := quiet (state, command) List.mem_cons_self
        replace first : lines (machine.execute state command).2 = lines state :=
          first
        rw [levels_perform, Receiver.receive_cons, first, ← seen,
          Receiver.observe_same]
        apply induction
        · intro step member
          exact quiet step (List.mem_cons_of_mem _ member)
        · exact seen.trans first.symm
    | trap => rfl
  rw [unchanged, List.append_nil]

theorem Sends.bind {program : Program Command Response α} {state next : State}
    {value : α} {continuation : α → Program Command Response β}
    {words more : List Word}
    (first : machine.Sends lines decode program state words)
    (run : machine.run program state = (some value, next))
    (second : machine.Sends lines decode (continuation value) next more) :
    machine.Sends lines decode (program >>= continuation) state
      (words ++ more) := by
  intro receiver seen
  have seenNext : (receiver.receive (machine.levels lines program state)).lines =
      lines next := by
    rw [receive_levels_lines program seen, run]
  rw [levels_bind run, Receiver.receive_append, second _ seenNext,
    first receiver seen, List.append_assoc]

theorem Sends.map {program : Program Command Response α} {state : State}
    {words : List Word} (sends : machine.Sends lines decode program state words)
    (f : α → β) : machine.Sends lines decode (f <$> program) state words := by
  intro receiver seen
  have same : machine.levels lines (f <$> program) state =
      machine.levels lines program state := by
    rw [levels, steps_map]
    rfl
  rw [same]
  exact sends receiver seen

end Machine

end SerialFc
