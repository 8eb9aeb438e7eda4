import SerialFc.Driver.ClockBits
import SerialFc.Driver.BaudRate

/-! # Port initialisation

The register part of `serialfc_port_new`, and the ports of a card one after
the other as `serialfc_card_new` creates them.
-/

namespace SerialFc

def fastcomInitGpio (port : Port) : Driver Unit := do
  match fastcomGetCardType port with
  | .pci =>
      let device := port.card.pciDev.device
      if device = fc422_2Pci335Id ∨ device = fc422_4Pci335Id then
        iowrite8 port mpioselOffset 0x00
      else if device = fc232_4Pci335Id ∨ device = fc232_8Pci335Id then
        iowrite8 port mpioselOffset 0xc0
        iowrite8 port mpioinvOffset 0xc0
  | .pcie =>
      iowrite8 port mpioselOffset 0x00
      iowrite8 port mpioselhOffset 0x00
  | _ => pure ()

def fastcomInitTriggers (port : Port) : Driver Unit := do
  match fastcomGetCardType port with
  | .pci | .pcie =>
      let currentFctr ← ioread8 port uartExarFctr
      let newFctr := currentFctr ||| 0xc0
      iowrite8 port fcrOffset 0x01
      iowrite8 port uartExarFctr newFctr
  | .fscc =>
      iowrite8 port fcrOffset 0x01
      -- LCR stays at 0xbf; only the shadow of ACR is reset here.
      iowrite8 port lcrOffset 0xbf
      iowrite8 port efrOffset 0x10
      storeAcr port 0x00
  | .unknown => pure ()

/-- The run of setters in `serialfc_port_new`, whose statuses are dropped. -/
def setDefaults (port : Port) : Driver Unit := do
  let _ ← fastcomSetRs485 port defaultRs485
  let _ ← fastcomSetSampleRate port defaultSampleRate
  let _ ← fastcomSetTxTrigger port defaultTxTriggerLevel
  let _ ← fastcomSetRxTrigger port defaultRxTriggerLevel
  let _ ← fastcomSetTermination port defaultTermination
  fastcomSetEchoCancel port defaultEchoCancel
  let _ ← fastcomSetIsochronous port defaultIsochronous
  let _ ← fastcomSetFrameLength port defaultFrameLength

/-- `fsccEnableAsync` is the module parameter `fscc_enable_async`. -/
def serialfcPortNew (fsccEnableAsync : Bool) (port : Port) : Driver Unit := do
  fastcomInitGpio port
  fastcomInitTriggers port
  if fastcomGetCardType port = .pci then
    let _ ← fastcomSetClockBitsPci port pci29MhzBits
  setDefaults port
  if fsccEnableAsync ∧ fastcomGetCardType port = .fscc then
    let _ ← fsccEnableAsyncMode port

def initialisePorts (fsccEnableAsync : Bool) (card : Card) :
    List Nat → Driver Unit
  | [] => pure ()
  | channel :: channels => do
      serialfcPortNew fsccEnableAsync ⟨card, channel⟩
      initialisePorts fsccEnableAsync card channels

/-- The loop of `serialfc_card_new` over the ports of the board. -/
def serialfcCardPorts (fsccEnableAsync : Bool) (card : Card) : Driver Unit :=
  initialisePorts fsccEnableAsync card (List.range card.numPorts)

theorem initialisePorts_runs {fsccEnableAsync : Bool} {card : Card}
    {channels : List Nat}
    (runs : ∀ channel ∈ channels, ∀ state, ∃ next,
      card.machine.run (serialfcPortNew fsccEnableAsync ⟨card, channel⟩) state =
        (some (), next))
    (state : CardState) :
    ∃ next, card.machine.run (initialisePorts fsccEnableAsync card channels)
      state = (some (), next) := by
  induction channels generalizing state with
  | nil => exact ⟨state, rfl⟩
  | cons first channels induction =>
      rcases runs first List.mem_cons_self state with ⟨after, run⟩
      rcases induction
        (fun channel member => runs channel (List.mem_cons_of_mem _ member))
        after with ⟨next, rest⟩
      refine ⟨next, ?_⟩
      rw [initialisePorts, Machine.run_bind, run]
      exact rest

/-- What initialising a port establishes for its channel, and initialising any
other keeps, holds for every channel in the end. -/
theorem initialisePorts_establishes {fsccEnableAsync : Bool} {card : Card}
    (holds : Nat → CardState → Prop) {bound : Nat}
    (establishes : ∀ channel < bound, ∀ state next,
      card.machine.run (serialfcPortNew fsccEnableAsync ⟨card, channel⟩) state =
        (some (), next) → holds channel next)
    (keeps : ∀ channel < bound, ∀ other < bound, other ≠ channel →
      ∀ state next,
        card.machine.run (serialfcPortNew fsccEnableAsync ⟨card, channel⟩)
          state = (some (), next) → holds other state → holds other next)
    {channels : List Nat} (inBound : ∀ channel ∈ channels, channel < bound)
    {state next : CardState}
    (run : card.machine.run (initialisePorts fsccEnableAsync card channels)
      state = (some (), next))
    {channel : Nat} (small : channel < bound)
    (already : channel ∈ channels ∨ holds channel state) :
    holds channel next := by
  induction channels generalizing state with
  | nil =>
      obtain ⟨_, rfl⟩ : _ ∧ state = next := Prod.mk.inj run
      exact already.resolve_left List.not_mem_nil
  | cons first channels induction =>
      rw [initialisePorts, Machine.run_bind] at run
      rcases portRun : card.machine.run
        (serialfcPortNew fsccEnableAsync ⟨card, first⟩) state with
        ⟨_ | value, after⟩
      · rw [portRun] at run
        cases run
      · rw [portRun] at run
        have firstSmall := inBound first List.mem_cons_self
        apply induction
          (fun other member => inBound other (List.mem_cons_of_mem _ member)) run
        by_cases isFirst : channel = first
        · subst isFirst
          exact .inr (establishes channel small state after portRun)
        · rcases already with member | holding
          · exact .inl ((List.mem_cons.mp member).resolve_left isFirst)
          · exact .inr
              (keeps first firstSmall channel small isFirst _ _ portRun holding)

theorem serialfcCardPorts_establishes {fsccEnableAsync : Bool} {card : Card}
    (holds : Nat → CardState → Prop)
    (establishes : ∀ channel < card.numPorts, ∀ state next,
      card.machine.run (serialfcPortNew fsccEnableAsync ⟨card, channel⟩) state =
        (some (), next) → holds channel next)
    (keeps : ∀ channel < card.numPorts, ∀ other < card.numPorts,
      other ≠ channel → ∀ state next,
        card.machine.run (serialfcPortNew fsccEnableAsync ⟨card, channel⟩)
          state = (some (), next) → holds other state → holds other next)
    {state next : CardState}
    (run : card.machine.run (serialfcCardPorts fsccEnableAsync card) state =
      (some (), next))
    {channel : Nat} (small : channel < card.numPorts) : holds channel next :=
  initialisePorts_establishes holds establishes keeps
    (fun _ member => List.mem_range.mp member) run small
    (.inl (List.mem_range.mpr small))

end SerialFc
