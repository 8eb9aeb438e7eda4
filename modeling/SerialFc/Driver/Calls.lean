import SerialFc.Driver.Operations
import SerialFc.Foundation.Transmission

/-! # A card from its probe on

Initialising the ports and then serving calls is one program, so that what the
card's pins do can be followed through all of it.
-/

namespace SerialFc

def callAll (card : Card) : List (Nat × Operation) → Driver (List Reply)
  | [] => pure []
  | (channel, operation) :: calls => do
      let reply ← operation.program ⟨card, channel⟩
      let replies ← callAll card calls
      pure (reply :: replies)

/-- The ports of a card are initialised and then called. -/
def serveCard (fsccEnableAsync : Bool) (card : Card)
    (calls : List (Nat × Operation)) : Driver (List Reply) := do
  serialfcCardPorts fsccEnableAsync card
  callAll card calls

variable {Word : Type} {card : Card} {lines : CardState → Lines}
  {decode : List Bool → Word} {valid : CardState → Prop}

theorem sends_callAll {sent : Nat × Operation → List Word}
    {calls : List (Nat × Operation)}
    (each : ∀ call ∈ calls, ∀ state, valid state →
      ∃ reply next, card.machine.run (call.2.program ⟨card, call.1⟩) state =
          (some reply, next) ∧ valid next ∧
        card.machine.Sends lines decode (call.2.program ⟨card, call.1⟩) state
          (sent call))
    {state : CardState} (isValid : valid state) :
    ∃ replies next, card.machine.run (callAll card calls) state =
        (some replies, next) ∧
      card.machine.Sends lines decode (callAll card calls) state
        (calls.flatMap sent) := by
  induction calls generalizing state with
  | nil => exact ⟨[], state, rfl, Machine.sends_pure [] state⟩
  | cons call calls induction =>
      rcases each call List.mem_cons_self state isValid with
        ⟨reply, middle, run, validMiddle, sends⟩
      rcases induction
        (fun later member => each later (List.mem_cons_of_mem _ member))
        validMiddle with ⟨replies, next, runRest, sendsRest⟩
      refine ⟨reply :: replies, next, ?_, ?_⟩
      · rw [callAll, Machine.run_bind, run]
        simp only [Machine.run_bind, runRest]
        rfl
      · rw [List.flatMap_cons]
        apply sends.bind run
        rw [bind_pure_comp]
        exact sendsRest.map _

theorem sends_initialisePorts {fsccEnableAsync : Bool} {sent : Nat → List Word}
    {channels : List Nat}
    (each : ∀ channel ∈ channels, ∀ state, valid state →
      ∃ next, card.machine.run (serialfcPortNew fsccEnableAsync ⟨card, channel⟩)
          state = (some (), next) ∧ valid next ∧
        card.machine.Sends lines decode
          (serialfcPortNew fsccEnableAsync ⟨card, channel⟩) state (sent channel))
    {state : CardState} (isValid : valid state) :
    ∃ next, card.machine.run (initialisePorts fsccEnableAsync card channels)
        state = (some (), next) ∧ valid next ∧
      card.machine.Sends lines decode
        (initialisePorts fsccEnableAsync card channels) state
        (channels.flatMap sent) := by
  induction channels generalizing state with
  | nil => exact ⟨state, rfl, isValid, Machine.sends_pure () state⟩
  | cons channel channels induction =>
      rcases each channel List.mem_cons_self state isValid with
        ⟨middle, run, validMiddle, sends⟩
      rcases induction
        (fun later member => each later (List.mem_cons_of_mem _ member))
        validMiddle with ⟨next, runRest, validNext, sendsRest⟩
      refine ⟨next, ?_, validNext, ?_⟩
      · rw [initialisePorts, Machine.run_bind, run]
        exact runRest
      · rw [initialisePorts, List.flatMap_cons]
        exact sends.bind run sendsRest

theorem sends_serveCard {fsccEnableAsync : Bool} {sentFirst : Nat → List Word}
    {sent : Nat × Operation → List Word} {calls : List (Nat × Operation)}
    (eachPort : ∀ channel < card.numPorts, ∀ state, valid state →
      ∃ next, card.machine.run (serialfcPortNew fsccEnableAsync ⟨card, channel⟩)
          state = (some (), next) ∧ valid next ∧
        card.machine.Sends lines decode
          (serialfcPortNew fsccEnableAsync ⟨card, channel⟩) state
          (sentFirst channel))
    (eachCall : ∀ call ∈ calls, ∀ state, valid state →
      ∃ reply next, card.machine.run (call.2.program ⟨card, call.1⟩) state =
          (some reply, next) ∧ valid next ∧
        card.machine.Sends lines decode (call.2.program ⟨card, call.1⟩) state
          (sent call))
    {state : CardState} (isValid : valid state) :
    ∃ replies next, card.machine.run (serveCard fsccEnableAsync card calls) state =
        (some replies, next) ∧
      card.machine.Sends lines decode (serveCard fsccEnableAsync card calls) state
        ((List.range card.numPorts).flatMap sentFirst ++ calls.flatMap sent) := by
  rcases sends_initialisePorts
    (fun channel member => eachPort channel (List.mem_range.mp member)) isValid with
    ⟨middle, run, validMiddle, sends⟩
  rcases sends_callAll eachCall validMiddle with ⟨replies, next, runCalls, sendsCalls⟩
  refine ⟨replies, next, ?_, ?_⟩
  · rw [serveCard, serialfcCardPorts, Machine.run_bind, run]
    exact runCalls
  · exact sends.bind run sendsCalls

end SerialFc
