import SerialFc.Driver.Port
import SerialFc.Foundation.History

/-! # Operations and runs of a card

The set and get operations that the ioctl and sysfs handlers call, and the
states a card reaches once its ports are initialised and any of them are
called on any port, in any order.
-/

namespace SerialFc

inductive Setting
  | rs485
  | echoCancel
  | termination
  | isochronous
  | externalTransmit
  | frameLength
  | txTrigger
  | rxTrigger
  | sampleRate
  deriving DecidableEq, Repr

namespace Setting

/-- The setter of a setting. Echo cancel has no status and never fails. -/
def set (port : Port) (value : BitVec 32) : Setting → Driver Int
  | .rs485 => fastcomSetRs485 port value
  | .echoCancel => do
      fastcomSetEchoCancel port value
      pure 0
  | .termination => fastcomSetTermination port value
  | .isochronous => fastcomSetIsochronous port value
  | .externalTransmit => fastcomSetExternalTransmit port value
  | .frameLength => fastcomSetFrameLength port value
  | .txTrigger => fastcomSetTxTrigger port value
  | .rxTrigger => fastcomSetRxTrigger port value
  | .sampleRate => fastcomSetSampleRate port value

/-- The getter of a setting; `before` is the old contents of its output. -/
def get (port : Port) (before : BitVec 32) : Setting → Driver (Int × BitVec 32)
  | .rs485 => fastcomGetRs485 port before
  | .echoCancel => do pure (0, ← fastcomGetEchoCancel port before)
  | .termination => fastcomGetTermination port before
  | .isochronous => fastcomGetIsochronous port before
  | .externalTransmit => fastcomGetExternalTransmit port before
  | .frameLength => fastcomGetFrameLength port before
  | .txTrigger => fastcomGetTxTrigger port before
  | .rxTrigger => fastcomGetRxTrigger port before
  | .sampleRate => do pure (0, ← fastcomGetSampleRate port)

/-- The value a setter's argument stands for: three settings are switches, and
any nonzero argument turns them on. -/
def denote (argument : BitVec 32) : Setting → BitVec 32
  | .rs485 | .echoCancel | .termination => if argument ≠ 0 then 1 else 0
  | _ => argument

theorem switch_of_report {on : Bool} {value : BitVec 32}
    (reported : (if on = true then (1 : BitVec 32) else 0) =
      if value ≠ 0 then 1 else 0) : on = decide (value ≠ 0) := by
  by_cases zero : value = 0
  · subst zero
    cases on with
    | false => rfl
    | true => exact absurd reported (by decide)
  · rw [if_pos zero] at reported
    rw [decide_eq_true zero]
    cases on with
    | false => exact absurd reported (by decide)
    | true => rfl

/-- The families that have a setting. Frame length came with a firmware
revision. -/
def SupportedBy (type : CardType) (firmware : Nat) : Setting → Prop
  | .rs485 | .echoCancel | .txTrigger | .rxTrigger | .sampleRate =>
      type ≠ .unknown
  | .termination => type = .pcie
  | .isochronous | .externalTransmit => type = .fscc
  | .frameLength => type = .fscc ∧ 0x20 ≤ firmware

instance (type : CardType) (firmware : Nat) (setting : Setting) :
    Decidable (setting.SupportedBy type firmware) := by
  cases setting <;> unfold SupportedBy <;> infer_instance

end Setting

def Refuses (type : CardType) (call : Driver Int) (state : CardState) : Prop :=
  ∃ status, status ≠ 0 ∧
    (cardMachine type).run call state = (some status, state) ∧
    ∀ access ∈ (cardMachine type).trace call state, access.mutates = false

theorem refuses_pure (type : CardType) (state : CardState) {status : Int}
    (failed : status ≠ 0) : Refuses type (pure status) state := by
  refine ⟨status, failed, rfl, ?_⟩
  intro access member
  cases member

theorem refuses_einval (type : CardType) (state : CardState) :
    Refuses type (pure (-einval)) state :=
  refuses_pure type state (by decide)

theorem refuses_eprotonosupport (type : CardType) (state : CardState) :
    Refuses type (pure (-eprotonosupport)) state :=
  refuses_pure type state (by decide)

inductive Operation
  | set (setting : Setting) (value : BitVec 32)
  | get (setting : Setting) (before : BitVec 32)
  | setClockBits (clockData : Fin 20 → BitVec 8) (allocated : Bool)
  | enableAsyncMode
  | disableAsyncMode
  | setBaudRate (value : BitVec 64)
  | getBaudRate (before : BitVec 64)

inductive Reply
  | status (status : Int)
  | value (status : Int) (value : BitVec 32)
  | rate (status : Int) (value : BitVec 64)
  deriving DecidableEq

def Operation.program (port : Port) : Operation → Driver Reply
  | .set setting value => do pure (.status (← setting.set port value))
  | .get setting before => do
      let (status, value) ← setting.get port before
      pure (.value status value)
  | .setClockBits clockData allocated => do
      pure (.status (← fastcomSetClockBits port clockData allocated))
  | .enableAsyncMode => do pure (.status (← fsccEnableAsyncMode port))
  | .disableAsyncMode => do pure (.status (← fsccDisableAsyncMode port))
  | .setBaudRate value => do pure (.status (← fastcomSetBaudRate port value))
  | .getBaudRate before => do
      let (status, value) ← fastcomGetBaudRate port before
      pure (.rate status value)

def Operation.isGet : Operation → Bool
  | .get .. | .getBaudRate _ => true
  | _ => false

structure Event where
  channel : Nat
  operation : Operation
  reply : Reply

/-- The setting that a call changed: only a setter that returned zero does. -/
def Event.writes (event : Event) : Option ((Nat × Setting) × BitVec 32) :=
  match event.operation, event.reply with
  | .set setting value, .status 0 =>
      some ((event.channel, setting), setting.denote value)
  | _, _ => none

theorem Event.writes_set (channel : Nat) (setting : Setting)
    (value : BitVec 32) :
    (Event.mk channel (.set setting value) (.status 0)).writes =
      some ((channel, setting), setting.denote value) := rfl

theorem Event.writes_set_of_failed (channel : Nat) (setting : Setting)
    (value : BitVec 32) {status : Int} (failed : status ≠ 0) :
    (Event.mk channel (.set setting value) (.status status)).writes = none := by
  simp [Event.writes, failed]

theorem Event.writes_denote {event : Event} {channel : Nat} {setting : Setting}
    {value : BitVec 32}
    (written : event.writes = some ((channel, setting), value)) :
    ∃ argument, value = setting.denote argument := by
  unfold Event.writes at written
  split at written
  · obtain ⟨⟨_, rfl⟩, rfl⟩ := by simpa using written
    exact ⟨_, rfl⟩
  · cases written

def Initialised (fsccEnableAsync : Bool) (card : Card) (state : CardState) :
    Prop :=
  ∃ before, card.machine.run (serialfcCardPorts fsccEnableAsync card) before =
    (some (), state)

def Operates (card : Card) (state : CardState) (event : Event)
    (next : CardState) : Prop :=
  event.channel < card.numPorts ∧
    card.machine.run (event.operation.program ⟨card, event.channel⟩) state =
      (some event.reply, next)

abbrev Reachable (fsccEnableAsync : Bool) (card : Card) :
    CardState → List Event → Prop :=
  Run (Initialised fsccEnableAsync card) (Operates card)

/-- The value that the last successful set of a setting on a port asked for. -/
def lastSet (history : List Event) (channel : Nat) (setting : Setting) :
    Option (BitVec 32) :=
  lastWrite Event.writes history (channel, setting)

end SerialFc
