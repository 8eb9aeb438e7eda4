import SerialFc.Driver.Card
import SerialFc.Foundation.Program

/-! # Register accesses and the registers of a card

The driver reaches the hardware through `ioread8`, `iowrite8`, `ioread32` and
`iowrite32`, and keeps shadow fields in `struct serialfc_port`. Each of these
accesses is one command; this file says what a command does to a card.
-/

namespace SerialFc

/-! ## Accesses -/

/-- The shadow fields of `struct serialfc_port` that are `unsigned`. The
shadow of ACR is an `unsigned char` and has accesses of its own. -/
inductive PortField
  | sampleRate
  | txTrigger
  | rxTrigger
  deriving DecidableEq

inductive Bar
  | bar0
  | bar2
  deriving DecidableEq

/-- One atomic access. An 8-bit access names the channel whose window
`port->addr` starts and the offset in it. -/
inductive Access
  | ioread8 (channel offset : Nat)
  | iowrite8 (channel offset : Nat) (value : BitVec 8)
  | ioread32 (bar : Bar) (offset : Nat)
  | iowrite32 (bar : Bar) (offset : Nat) (value : BitVec 32)
  | load (channel : Nat) (field : PortField)
  | store (channel : Nat) (field : PortField) (value : BitVec 32)
  | loadAcr (channel : Nat)
  | storeAcr (channel : Nat) (value : BitVec 8)
  deriving DecidableEq

namespace Access

@[reducible] def Response : Access → Type
  | .ioread8 .. | .loadAcr _ => BitVec 8
  | .ioread32 .. | .load .. => BitVec 32
  | .iowrite8 .. | .iowrite32 .. | .store .. | .storeAcr .. => Unit

def writesRegister : Access → Bool
  | .iowrite8 .. | .iowrite32 .. => true
  | _ => false

def mutates : Access → Bool
  | .iowrite8 .. | .iowrite32 .. | .store .. | .storeAcr .. => true
  | .ioread8 .. | .ioread32 .. | .load .. | .loadAcr _ => false

/-- The port whose 16C950 index register is accessed, or accessed through. -/
def indexedChannel : Access → Option Nat
  | .ioread8 channel offset | .iowrite8 channel offset _ =>
      if offset = sprOffset ∨ offset = icrOffset then some channel else none
  | .ioread32 .. | .iowrite32 .. | .load .. | .store .. | .loadAcr _
  | .storeAcr .. => none

end Access

abbrev Driver := Program Access Access.Response

def ioread8 (port : Port) (offset : Nat) : Driver (BitVec 8) :=
  .perform (.ioread8 port.channel offset) .done

def iowrite8 (port : Port) (offset : Nat) (value : BitVec 8) : Driver Unit :=
  .perform (.iowrite8 port.channel offset value) .done

def ioread32 (bar : Bar) (offset : Nat) : Driver (BitVec 32) :=
  .perform (.ioread32 bar offset) .done

def iowrite32 (bar : Bar) (offset : Nat) (value : BitVec 32) : Driver Unit :=
  .perform (.iowrite32 bar offset value) .done

def iowrite32Rep (bar : Bar) (offset : Nat) : List (BitVec 32) → Driver Unit
  | [] => pure ()
  | value :: values => do
      iowrite32 bar offset value
      iowrite32Rep bar offset values

def load (port : Port) (field : PortField) : Driver (BitVec 32) :=
  .perform (.load port.channel field) .done

def store (port : Port) (field : PortField) (value : BitVec 32) : Driver Unit :=
  .perform (.store port.channel field value) .done

def loadAcr (port : Port) : Driver (BitVec 8) :=
  .perform (.loadAcr port.channel) .done

def storeAcr (port : Port) (value : BitVec 8) : Driver Unit :=
  .perform (.storeAcr port.channel value) .done

/-! ## UART registers -/

/-- The registers of one port's UART. `banked` holds those that LCR switches
in, `plain` the others, and `status` is what the UART itself reports where a
read does not return the register written at that offset. -/
structure Uart where
  lcr : BitVec 8
  spr : BitVec 8
  indexed : BitVec 8 → BitVec 8
  banked : Nat → BitVec 8
  plain : Nat → BitVec 8
  status : Nat → BitVec 8

namespace Uart

/-- 16C950: while LCR is not 0xbf, offset 7 is the index register SPR and
offset 5 the register it selects. Reading a selected register needs bit 6 of
ACR; without it offset 5 reads as the line status. -/
def read950 (uart : Uart) (offset : Nat) : BitVec 8 :=
  if offset = lcrOffset then uart.lcr
  else if uart.lcr = 0xbf#8 then uart.banked offset
  else if offset = sprOffset then uart.spr
  else if offset = icrOffset then
    if (uart.indexed acrOffset).getLsbD 6 then uart.indexed uart.spr
    else uart.status offset
  else uart.plain offset

def write950 (uart : Uart) (offset : Nat) (value : BitVec 8) : Uart :=
  if offset = lcrOffset then { uart with lcr := value }
  else if uart.lcr = 0xbf#8 then
    { uart with banked := Function.update uart.banked offset value }
  else if offset = sprOffset then { uart with spr := value }
  else if offset = icrOffset then
    { uart with indexed := Function.update uart.indexed uart.spr value }
  else { uart with plain := Function.update uart.plain offset value }

/-- Exar: bit 7 of LCR switches the divisor latches in at offsets 0 to 2. The
trigger levels are write-only; their offsets read as FIFO counters. -/
def readExar (uart : Uart) (offset : Nat) : BitVec 8 :=
  if offset = lcrOffset then uart.lcr
  else if offset ≤ dldOffset ∧ uart.lcr.getLsbD 7 then uart.banked offset
  else if offset = uartExarTxtrg ∨ offset = uartExarRxtrg then
    uart.status offset
  else uart.plain offset

def writeExar (uart : Uart) (offset : Nat) (value : BitVec 8) : Uart :=
  if offset = lcrOffset then { uart with lcr := value }
  else if offset ≤ dldOffset ∧ uart.lcr.getLsbD 7 then
    { uart with banked := Function.update uart.banked offset value }
  else { uart with plain := Function.update uart.plain offset value }

end Uart

/-! ## Card state -/

structure PortFields where
  sampleRate : BitVec 32
  txTrigger : BitVec 32
  rxTrigger : BitVec 32
  acr : BitVec 8

namespace PortFields

def get (fields : PortFields) : PortField → BitVec 32
  | .sampleRate => fields.sampleRate
  | .txTrigger => fields.txTrigger
  | .rxTrigger => fields.rxTrigger

def set (fields : PortFields) (value : BitVec 32) : PortField → PortFields
  | .sampleRate => { fields with sampleRate := value }
  | .txTrigger => { fields with txTrigger := value }
  | .rxTrigger => { fields with rxTrigger := value }

end PortFields

/-- The registers of a card and the shadow fields of its ports. `config` holds
the Exar device configuration registers, which every port's window shows at
the same offsets; `fcr` and `bar0` belong to FSCC cards. -/
structure CardState where
  uart : Nat → Uart
  config : Nat → BitVec 8
  fcr : BitVec 32
  bar0 : Nat → BitVec 32
  fields : Nat → PortFields

def CardState.blank : CardState where
  uart _ := ⟨0, 0, fun _ => 0, fun _ => 0, fun _ => 0, fun _ => 0⟩
  config _ := 0
  fcr := 0
  bar0 _ := 0
  fields _ := ⟨0, 0, 0, 0⟩

/-- First offset of the device configuration registers. -/
def configBase : Nat := 0x80

namespace CardState

variable (state : CardState)

def read8 (type : CardType) (channel offset : Nat) : BitVec 8 :=
  match type with
  | .fscc => (state.uart channel).read950 offset
  | _ =>
      if configBase ≤ offset then state.config offset
      else (state.uart channel).readExar offset

def write8 (type : CardType) (channel offset : Nat) (value : BitVec 8) :
    CardState :=
  match type with
  | .fscc =>
      { state with
        uart := Function.update state.uart channel
          ((state.uart channel).write950 offset value) }
  | _ =>
      if configBase ≤ offset then
        { state with config := Function.update state.config offset value }
      else
        { state with
          uart := Function.update state.uart channel
            ((state.uart channel).writeExar offset value) }

def read32 (bar : Bar) (offset : Nat) : BitVec 32 :=
  match bar with
  | .bar0 => state.bar0 offset
  | .bar2 => state.fcr

def write32 (bar : Bar) (offset : Nat) (value : BitVec 32) : CardState :=
  match bar with
  | .bar0 => { state with bar0 := Function.update state.bar0 offset value }
  | .bar2 => { state with fcr := value }

def setField (channel : Nat) (field : PortField) (value : BitVec 32) :
    CardState :=
  { state with
    fields := Function.update state.fields channel
      ((state.fields channel).set value field) }

def setAcr (channel : Nat) (value : BitVec 8) : CardState :=
  { state with
    fields := Function.update state.fields channel
      { state.fields channel with acr := value } }

end CardState

/-! ## Writes that change nothing -/

section Unchanged

variable {state : CardState} {channel : Nat}

theorem setField_eq_self {field : PortField} {value : BitVec 32}
    (same : (state.fields channel).set value field = state.fields channel) :
    state.setField channel field value = state := by
  rw [CardState.setField, same, Function.update_eq_self]

theorem setAcr_eq_self {acr : BitVec 8} (same : acr = (state.fields channel).acr) :
    state.setAcr channel acr = state := by
  rw [CardState.setAcr, same, Function.update_eq_self]

end Unchanged

structure SameButIndex (before after : CardState) : Prop where
  uart : ∀ channel, { after.uart channel with spr := (before.uart channel).spr } =
    before.uart channel
  config : after.config = before.config
  fcr : after.fcr = before.fcr
  bar0 : after.bar0 = before.bar0
  fields : after.fields = before.fields

namespace SameButIndex

variable {before middle after : CardState}

theorem refl (state : CardState) : SameButIndex state state :=
  ⟨fun _ => rfl, rfl, rfl, rfl, rfl⟩

theorem of_eq (same : after = before) : SameButIndex before after := by
  rw [same]
  exact refl before

theorem trans (first : SameButIndex before middle)
    (second : SameButIndex middle after) : SameButIndex before after where
  uart channel := by
    have early := first.uart channel
    rw [← second.uart channel] at early
    exact early
  config := second.config.trans first.config
  fcr := second.fcr.trans first.fcr
  bar0 := second.bar0.trans first.bar0
  fields := second.fields.trans first.fields

theorem symm (same : SameButIndex before after) : SameButIndex after before where
  uart channel := by
    rw [← same.uart channel]
  config := same.config.symm
  fcr := same.fcr.symm
  bar0 := same.bar0.symm
  fields := same.fields.symm

theorem lcr (same : SameButIndex before after) (channel : Nat) :
    (after.uart channel).lcr = (before.uart channel).lcr := by
  have uart := congrArg Uart.lcr (same.uart channel)
  exact uart

theorem indexed (same : SameButIndex before after) (channel : Nat) :
    (after.uart channel).indexed = (before.uart channel).indexed := by
  have uart := congrArg Uart.indexed (same.uart channel)
  exact uart

theorem banked (same : SameButIndex before after) (channel : Nat) :
    (after.uart channel).banked = (before.uart channel).banked := by
  have uart := congrArg Uart.banked (same.uart channel)
  exact uart

theorem plain (same : SameButIndex before after) (channel : Nat) :
    (after.uart channel).plain = (before.uart channel).plain := by
  have uart := congrArg Uart.plain (same.uart channel)
  exact uart

end SameButIndex

/-! ## The accesses of a card -/

def cardMachine (type : CardType) : Machine Access Access.Response CardState where
  execute state
    | .ioread8 channel offset => (state.read8 type channel offset, state)
    | .iowrite8 channel offset value =>
        ((), state.write8 type channel offset value)
    | .ioread32 bar offset => (state.read32 bar offset, state)
    | .iowrite32 bar offset value => ((), state.write32 bar offset value)
    | .load channel field => ((state.fields channel).get field, state)
    | .store channel field value => ((), state.setField channel field value)
    | .loadAcr channel => ((state.fields channel).acr, state)
    | .storeAcr channel value => ((), state.setAcr channel value)

def Card.machine (card : Card) : Machine Access Access.Response CardState :=
  cardMachine (fastcomGetCardType2 card)

theorem machine_of_cardType {port : Port} {type : CardType}
    (isType : fastcomGetCardType port = type) :
    port.card.machine = cardMachine type :=
  congrArg cardMachine isType

/-! ## Running single accesses -/

section Runs

variable (type : CardType) (port : Port) (state : CardState)

@[simp] theorem run_ioread8 (offset : Nat) :
    (cardMachine type).run (ioread8 port offset) state =
      (some (state.read8 type port.channel offset), state) := rfl

@[simp] theorem run_iowrite8 (offset : Nat) (value : BitVec 8) :
    (cardMachine type).run (iowrite8 port offset value) state =
      (some (), state.write8 type port.channel offset value) := rfl

@[simp] theorem run_ioread32 (bar : Bar) (offset : Nat) :
    (cardMachine type).run (ioread32 bar offset) state =
      (some (state.read32 bar offset), state) := rfl

@[simp] theorem run_iowrite32 (bar : Bar) (offset : Nat) (value : BitVec 32) :
    (cardMachine type).run (iowrite32 bar offset value) state =
      (some (), state.write32 bar offset value) := rfl

@[simp] theorem run_load (field : PortField) :
    (cardMachine type).run (load port field) state =
      (some ((state.fields port.channel).get field), state) := rfl

@[simp] theorem run_store (field : PortField) (value : BitVec 32) :
    (cardMachine type).run (store port field value) state =
      (some (), state.setField port.channel field value) := rfl

@[simp] theorem run_loadAcr :
    (cardMachine type).run (loadAcr port) state =
      (some (state.fields port.channel).acr, state) := rfl

@[simp] theorem run_storeAcr (value : BitVec 8) :
    (cardMachine type).run (storeAcr port value) state =
      (some (), state.setAcr port.channel value) := rfl

@[simp] theorem steps_ioread8 (offset : Nat) :
    (cardMachine type).steps (ioread8 port offset) state =
      [(state, .ioread8 port.channel offset)] := rfl

@[simp] theorem steps_iowrite8 (offset : Nat) (value : BitVec 8) :
    (cardMachine type).steps (iowrite8 port offset value) state =
      [(state, .iowrite8 port.channel offset value)] := rfl

@[simp] theorem steps_ioread32 (bar : Bar) (offset : Nat) :
    (cardMachine type).steps (ioread32 bar offset) state =
      [(state, .ioread32 bar offset)] := rfl

@[simp] theorem steps_iowrite32 (bar : Bar) (offset : Nat) (value : BitVec 32) :
    (cardMachine type).steps (iowrite32 bar offset value) state =
      [(state, .iowrite32 bar offset value)] := rfl

@[simp] theorem steps_load (field : PortField) :
    (cardMachine type).steps (load port field) state =
      [(state, .load port.channel field)] := rfl

@[simp] theorem steps_store (field : PortField) (value : BitVec 32) :
    (cardMachine type).steps (store port field value) state =
      [(state, .store port.channel field value)] := rfl

@[simp] theorem steps_loadAcr :
    (cardMachine type).steps (loadAcr port) state =
      [(state, .loadAcr port.channel)] := rfl

@[simp] theorem steps_storeAcr (value : BitVec 8) :
    (cardMachine type).steps (storeAcr port value) state =
      [(state, .storeAcr port.channel value)] := rfl

theorem run_iowrite32Rep (offset : Nat) (values : List (BitVec 32)) :
    (cardMachine type).run (iowrite32Rep .bar2 offset values) state =
      (some (), { state with fcr := values.getLast?.getD state.fcr }) := by
  induction values generalizing state with
  | nil => rfl
  | cons value values induction =>
      refine (induction _).trans ?_
      rw [List.getLast?_cons]
      rfl

theorem trace_iowrite32Rep (bar : Bar) (offset : Nat)
    (values : List (BitVec 32)) :
    (cardMachine type).trace (iowrite32Rep bar offset values) state =
      values.map (.iowrite32 bar offset) := by
  induction values generalizing state with
  | nil => rfl
  | cons value values induction =>
      exact congrArg (List.cons _) (induction _)

end Runs

theorem storeIfSet_performs (port : Port) {allowed : Access → Prop}
    {program : Driver Int} {field : PortField} {value : BitVec 32}
    (performs : program.Performs allowed)
    (stores : allowed (.store port.channel field value)) :
    (do
      let status ← program
      if status = 0 then
        store port field value
      pure status : Driver Int).Performs allowed := by
  apply Program.performs_bind performs
  intro status
  simp [store, stores]

end SerialFc
