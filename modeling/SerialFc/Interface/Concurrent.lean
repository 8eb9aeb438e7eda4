import SerialFc.Fscc.Runs
import SerialFc.Interface.SharedRegisters

/-! # Two calls at once

The handler takes no lock, so the accesses of two calls on one card mix. What
belongs to a port is out of reach of calls on the other ports; FCR and the
configuration registers are not.
-/

namespace SerialFc

structure Call where
  channel : Nat
  command : Command
  arg : BitVec 64
  user : UserSpace
  allocated : Bool

def Call.port (card : Card) (call : Call) : Port := ⟨card, call.channel⟩

def Call.program (card : Card) (call : Call) : Driver (Int × UserMemory) :=
  serialfcIoctl (call.port card) call.arg call.user call.allocated call.command

abbrev CallOutcome := Outcome (Int × UserMemory) (Int × UserMemory) CardState

abbrev Mixes (card : Card) (left right : Call) (state : CardState)
    (trace : List (Side × Access)) (outcome : CallOutcome) : Prop :=
  Interleaves card.machine (left.program card) (right.program card) state trace
    outcome

def Serial (card : Card) (left right : Call) (state : CardState)
    (outcome : CallOutcome) : Prop :=
  outcome =
      card.machine.leftFirst (left.program card) (right.program card) state ∨
    outcome =
      card.machine.rightFirst (left.program card) (right.program card) state

/-- Whatever is called and however the accesses mix, the calls end as in a
serial order. -/
def CallsSerialise : Prop :=
  ∀ fsccEnableAsync card state history,
    boardNumPorts card.pciDev.device = some card.numPorts →
    Reachable fsccEnableAsync card state history →
    ∀ left right : Call, left.channel < card.numPorts →
      right.channel < card.numPorts →
      ∀ trace outcome, Mixes card left right state trace outcome →
        Serial card left right state outcome

/-! ## An update that is lost -/

section LostUpdate

variable (user : UserSpace)

def enableEchoCancelOn (channel : Nat) : Call :=
  ⟨channel, .enableEchoCancel, 0, user, true⟩

theorem mixes_enableEchoCancel (state : CardState) :
    ∃ trace, Mixes (Card.ofDevice fsccId 2) (enableEchoCancelOn user 0)
      (enableEchoCancelOn user 1) state trace
      ⟨some (0, user.memory), some (0, user.memory),
        { state with fcr := state.fcr ||| 0x00100000 }⟩ :=
  ⟨_, .left (.right (.left (.right (.ended (.done _) (.done _)))))⟩

theorem serial_enableEchoCancel {state : CardState} {outcome : CallOutcome}
    (serial : Serial (Card.ofDevice fsccId 2) (enableEchoCancelOn user 0)
      (enableEchoCancelOn user 1) state outcome) :
    outcome.state.fcr.getLsbD 16 = true := by
  rcases serial with first | second
  · rw [first]
    have fcr : (Machine.leftFirst (Card.ofDevice fsccId 2).machine
        ((enableEchoCancelOn user 0).program (Card.ofDevice fsccId 2))
        ((enableEchoCancelOn user 1).program (Card.ofDevice fsccId 2))
        state).state.fcr = state.fcr ||| 0x00010000 ||| 0x00100000 := rfl
    rw [fcr]
    simp
  · rw [second]
    have fcr : (Machine.rightFirst (Card.ofDevice fsccId 2).machine
        ((enableEchoCancelOn user 0).program (Card.ofDevice fsccId 2))
        ((enableEchoCancelOn user 1).program (Card.ofDevice fsccId 2))
        state).state.fcr = state.fcr ||| 0x00100000 ||| 0x00010000 := rfl
    rw [fcr]
    simp

end LostUpdate

theorem exists_reachable_echoCancelOff :
    ∃ state history, Reachable false (Card.ofDevice fsccId 2) state history ∧
      state.fcr.getLsbD 16 = false := by
  have isFscc : fastcomGetCardType ⟨Card.ofDevice fsccId 2, 0⟩ = .fscc := rfl
  rcases exists_initialised_fscc isFscc rfl false with ⟨started, initialised⟩
  have sets := run_set_of_accepts isFscc started 0 .echoCancel trivial
  have operates : Operates (Card.ofDevice fsccId 2) started
      ⟨0, .set .echoCancel 0, .status 0⟩
      (started.applyFscc ⟨Card.ofDevice fsccId 2, 0⟩ 0 .echoCancel) := by
    have machineEq : (Card.ofDevice fsccId 2).machine = cardMachine .fscc := rfl
    refine ⟨by decide, ?_⟩
    rw [machineEq]
    simp only [Operation.program, Machine.run_bind, sets]
    rfl
  refine ⟨_, _, .step (.start initialised) operates, ?_⟩
  simp [CardState.applyFscc, switchBits, echoCancelBitMask]

theorem not_callsSerialise : ¬CallsSerialise := by
  intro serialise
  rcases exists_reachable_echoCancelOff with ⟨state, history, reachable, off⟩
  rcases mixes_enableEchoCancel ⟨fun _ => 0, 0⟩ state with ⟨trace, mixes⟩
  have serial := serialise false _ state history rfl reachable _ _
    (by decide : 0 < 2) (by decide : 1 < 2) trace _ mixes
  have on := serial_enableEchoCancel _ serial
  rw [BitVec.getLsbD_or, off] at on
  exact absurd on (by decide)

/-! ## Calls on one card -/

/-- What two outcomes have in common when only shared registers, and answers
read from them, may differ. -/
structure CallOutcome.AgreesApart (card : Card) (left right : Call)
    (outcome other : CallOutcome) : Prop where
  uart : outcome.state.uart = other.state.uart
  fields : outcome.state.fields = other.state.fields
  bar0 : outcome.state.bar0 = other.state.bar0
  left : left.command.asksShared (fastcomGetCardType2 card) = false →
    outcome.left = other.left
  right : right.command.asksShared (fastcomGetCardType2 card) = false →
    outcome.right = other.right

section Calls

variable {card : Card} {left right : Call} {state : CardState}
  {trace otherTrace : List (Side × Access)} {outcome other : CallOutcome}

theorem Call.performs_within (card : Card) (call : Call) :
    (call.program card).Performs
      (Access.Within (fastcomGetCardType2 card) call.channel) :=
  SerialFc.performs_within (call.port card) _ _ _ _

theorem Call.steady (card : Card) (call : Call) :
    card.machine.Steady (Access.shared (fastcomGetCardType2 card))
      (call.program card) :=
  serialfcIoctl_steady (call.port card) _ _ _ _

theorem Call.certain (card : Card) (call : Call)
    (own : call.command.asksShared (fastcomGetCardType2 card) = false) :
    card.machine.Certain (Access.shared (fastcomGetCardType2 card))
      (call.program card) :=
  serialfcIoctl_certain (call.port card) _ _ _ _ own

theorem portPart_untouched (mixes : Mixes card left right state trace outcome)
    {channel : Nat} (notLeft : left.channel ≠ channel)
    (notRight : right.channel ≠ channel) :
    outcome.state.portPart channel = state.portPart channel := by
  apply mixes.view_kept (left.performs_within card) (right.performs_within card)
  rintro access (within | within) state
  · exact portPart_foreign (.inr ⟨notLeft, within⟩) state
  · exact portPart_foreign (.inr ⟨notRight, within⟩) state

theorem portPart_left (different : left.channel ≠ right.channel)
    (mixes : Mixes card left right state trace outcome)
    (otherMixes : Mixes card left right state otherTrace other) :
    outcome.state.portPart left.channel =
      other.state.portPart left.channel :=
  mixes.view_left (separates (Ne.symm different)) (left.performs_within card)
    (right.performs_within card) (left.steady card) otherMixes

theorem result_left (different : left.channel ≠ right.channel)
    (own : left.command.asksShared (fastcomGetCardType2 card) = false)
    (mixes : Mixes card left right state trace outcome)
    (otherMixes : Mixes card left right state otherTrace other) :
    outcome.left = other.left :=
  mixes.result_left (separates (Ne.symm different)) (left.performs_within card)
    (right.performs_within card) (left.certain card own) otherMixes

theorem agreesApart (different : left.channel ≠ right.channel)
    (mixes : Mixes card left right state trace outcome)
    (otherMixes : Mixes card left right state otherTrace other) :
    outcome.AgreesApart card left right other := by
  have part : ∀ channel,
      outcome.state.portPart channel = other.state.portPart channel := by
    intro channel
    by_cases isLeft : left.channel = channel
    · subst isLeft
      exact portPart_left different mixes otherMixes
    · by_cases isRight : right.channel = channel
      · subst isRight
        have swapped :=
          portPart_left (Ne.symm different) mixes.swap otherMixes.swap
        exact swapped
      · rw [portPart_untouched mixes isLeft isRight,
          portPart_untouched otherMixes isLeft isRight]
  constructor
  · funext channel
    exact congrArg Prod.fst (part channel)
  · funext channel
    exact congrArg (fun part => part.2.1) (part channel)
  · exact congrArg (fun part => part.2.2) (part 0)
  · intro own
    exact result_left different own mixes otherMixes
  · intro own
    have swapped :=
      result_left (Ne.symm different) own mixes.swap otherMixes.swap
    exact swapped

end Calls

/-- Calls with footprints apart end as in both serial orders; any two calls do
as in the one of the call that is ahead; and on different ports nothing but
shared registers, and what is read from them, depends on the order. -/
theorem calls_outcome (card : Card) (left right : Call) (state : CardState)
    (trace : List (Side × Access)) (outcome : CallOutcome)
    (mixes : Mixes card left right state trace outcome) :
    let leftFirst :=
      card.machine.leftFirst (left.program card) (right.program card) state
    let rightFirst :=
      card.machine.rightFirst (left.program card) (right.program card) state
    ((left.command.footprint (left.port card)).Independent
        (right.command.footprint (right.port card)) →
      outcome = leftFirst ∧ outcome = rightFirst) ∧
    (LeftAhead card.machine trace → outcome = leftFirst) ∧
    (RightAhead card.machine trace → outcome = rightFirst) ∧
    (left.channel ≠ right.channel →
      outcome.AgreesApart card left right leftFirst ∧
        outcome.AgreesApart card left right rightFirst) := by
  intro leftFirst rightFirst
  refine ⟨?_, mixes.eq_leftFirst, mixes.eq_rightFirst, ?_⟩
  · intro independent
    exact mixes.eq_both
      (serialfcIoctl_keepsToFootprint (left.port card) _ _ _ _)
      (serialfcIoctl_keepsToFootprint (right.port card) _ _ _ _)
      (fun first second firstPermitted secondPermitted =>
        Footprint.commutes_of_independent independent firstPermitted
          secondPermitted)
  · intro different
    rcases interleaves_leftFirst card.machine (left.program card)
      (right.program card) state with ⟨_, leftMixes⟩
    rcases interleaves_rightFirst card.machine (left.program card)
      (right.program card) state with ⟨_, rightMixes⟩
    exact ⟨agreesApart different mixes leftMixes,
      agreesApart different mixes rightMixes⟩

/-- The update of FCR is lost, but the ports' own registers are as ever. -/
theorem calls_outcome_enableEchoCancel :
    let card := Card.ofDevice fsccId 2
    let left := enableEchoCancelOn ⟨fun _ => 0, 0⟩ 0
    let right := enableEchoCancelOn ⟨fun _ => 0, 0⟩ 1
    ∃ trace outcome, Mixes card left right .blank trace outcome ∧
      outcome.AgreesApart card left right
        (card.machine.leftFirst (left.program card) (right.program card)
          .blank) := by
  intro card left right
  rcases mixes_enableEchoCancel ⟨fun _ => 0, 0⟩ .blank with ⟨trace, mixes⟩
  have agrees :=
    (calls_outcome card left right .blank trace _ mixes).2.2.2 (by decide)
  exact ⟨trace, _, mixes, agrees.1⟩

end SerialFc
