import SerialFc.Abstract.Runs
import SerialFc.Interface.Ioctl
import SerialFc.Interface.Sysfs

/-! # What user space asks of a card

A request is an ioctl on the device node of a port, or a read or a write of one
of its attributes. It comes to one call on the settings of the card, or to none,
and its response is a function of the reply to that call.
-/

namespace SerialFc

inductive Request
  | ioctl (command : Command) (arg : BitVec 64) (user : UserSpace) (allocated : Bool)
  | read (attr : Attribute)
  | write (attr : Attribute) (text : Text)

inductive Response
  | ioctl (errorCode : Int) (memory : UserMemory)
  | text (text : Text)
  | count (count : Int)

def Request.handler (port : Port) : Request → Option (Driver Response)
  | .ioctl command arg user allocated =>
      some ((fun result => .ioctl result.1 result.2) <$>
        serialfcIoctl port arg user allocated command)
  | .read attr => (attr.showHandler port).map (Response.text <$> ·)
  | .write attr text => some (Response.count <$> attr.storeHandler port text)

/-! ## Commands -/

namespace Command

def operation (arg : BitVec 64) (user : UserSpace) (allocated : Bool) :
    Command → Option Operation
  | .enableRs485 => some (.set .rs485 1)
  | .disableRs485 => some (.set .rs485 0)
  | .getRs485 => some (.get .rs485 0)
  | .enableEchoCancel => some (.set .echoCancel 1)
  | .disableEchoCancel => some (.set .echoCancel 0)
  | .getEchoCancel => some (.get .echoCancel 0)
  | .enableTermination => some (.set .termination 1)
  | .disableTermination => some (.set .termination 0)
  | .getTermination => some (.get .termination 0)
  | .setSampleRate => some (.set .sampleRate (arg.setWidth 32))
  | .getSampleRate => some (.get .sampleRate 0)
  | .setTxTrigger => some (.set .txTrigger (arg.setWidth 32))
  | .getTxTrigger => some (.get .txTrigger 0)
  | .setRxTrigger => some (.set .rxTrigger (arg.setWidth 32))
  | .getRxTrigger => some (.get .rxTrigger 0)
  | .setClockBits => some (.setClockBits user.copyFromUser.2 allocated)
  | .enableIsochronous => some (.set .isochronous (arg.setWidth 32))
  | .disableIsochronous => some (.set .isochronous (-1))
  | .getIsochronous => some (.get .isochronous 0)
  | .enableExternalTransmit => some (.set .externalTransmit (arg.setWidth 32))
  | .disableExternalTransmit => some (.set .externalTransmit 0)
  | .getExternalTransmit => some (.get .externalTransmit 0)
  | .setFrameLength => some (.set .frameLength (arg.setWidth 32))
  | .getFrameLength => some (.get .frameLength 0)
  | .setBaudRate => some (.setBaudRate arg)
  | .getBaudRate => some (.getBaudRate 0)
  | .setClockRate | .getCardType | .enable9bit | .disable9bit | .get9bit
  | .enableFixedBaudRate | .disableFixedBaudRate | .getFixedBaudRate
  | .getDevInfo | .unknown => none

/-- How the reply is handed back. The switches of RS485 and of echo cancel hand
back no status. -/
def respond (user : UserSpace) (command : Command) : Reply → Int × UserMemory
  | .status status =>
      if command = .enableRs485 ∨ command = .disableRs485 then (0, user.memory)
      else (status, user.memory)
  | .value status value => user.answer status value.toNat
  | .rate status value => user.answer status value.toNat

def respondAlone (card : Card) (user : UserSpace) : Command → Int × UserMemory
  | .getCardType => user.answer 0 (fastcomGetCardType2 card).toValue.toNat
  | .get9bit => user.answer (-eprotonosupport) 0
  | .getDevInfo =>
      let (left, memory) := user.copyToUser 6 (devInfo card.pciDev).toNat
      (if left ≠ 0 then -enodata else 0, memory)
  | .setClockRate | .enable9bit | .disable9bit | .enableFixedBaudRate
  | .disableFixedBaudRate | .getFixedBaudRate => (-eprotonosupport, user.memory)
  | _ => (-enotty, user.memory)

end Command

theorem serialfcIoctl_eq (port : Port) (arg : BitVec 64) (user : UserSpace)
    (allocated : Bool) (command : Command) :
    serialfcIoctl port arg user allocated command =
      match command.operation arg user allocated with
      | some operation => command.respond user <$> operation.program port
      | none => pure (command.respondAlone port.card user) := by
  cases command with
  | setClockRate | getCardType | enable9bit | disable9bit | get9bit => rfl
  | enableFixedBaudRate | disableFixedBaudRate | getFixedBaudRate => rfl
  | getDevInfo | unknown => rfl
  | _ =>
      simp [serialfcIoctl, Command.operation, Command.respond, Operation.program,
        Setting.set, Setting.get, fastcomEnableRs485, fastcomDisableRs485,
        fastcomEnableEchoCancel, fastcomDisableEchoCancel, fastcomEnableTermination,
        fastcomDisableTermination, fastcomEnableIsochronous,
        fastcomDisableIsochronous, fastcomEnableExternalTransmit,
        fastcomDisableExternalTransmit]

/-! ## Attributes -/

namespace Attribute

def readOperation : Attribute → Option Operation
  | .setting kind => some (.get kind 0)
  | .baudRate => some (.getBaudRate 0)
  | .nineBit | .clockRate => none

def writeOperation (text : Text) : Attribute → Option Operation
  | .setting kind => some (.set kind ((simpleStrtoul text 16).setWidth 32))
  | .baudRate => some (.setBaudRate (simpleStrtoul text 10))
  | .nineBit | .clockRate => none

end Attribute

def Reply.text : Reply → Text
  | .status code => printInt code ++ ['\n']
  | .value _ number => printInt number.toInt ++ ['\n']
  | .rate _ number => Nat.toDigits 10 number.toNat ++ ['\n']

theorem showHandler_eq (port : Port) (attr : Attribute) :
    attr.showHandler port =
      match attr.readOperation with
      | some operation => some (Reply.text <$> operation.program port)
      | none =>
          match attr with
          | .nineBit => some (pure ['0', '\n'])
          | _ => none := by
  cases attr with
  | nineBit => rfl
  | clockRate => rfl
  | setting setting =>
      rw [Attribute.showHandler_setting]
      simp [Attribute.readOperation, Operation.program, showUnsigned, Reply.text]
  | baudRate =>
      simp [Attribute.showHandler, Attribute.readOperation, Operation.program,
        baudRateShow, Reply.text]

theorem storeHandler_eq (port : Port) (attr : Attribute) (text : Text) :
    attr.storeHandler port text =
      match attr.writeOperation text with
      | some operation => (fun _ => (text.length : Int)) <$> operation.program port
      | none => pure (text.length : Int) := by
  cases attr with
  | nineBit | clockRate => rfl
  | setting setting =>
      cases setting <;>
        simp [Attribute.storeHandler, Attribute.writeOperation, Operation.program,
          Setting.set, storeUnsigned, rs485Store, echoCancelStore, terminationStore,
          isochronousStore, externalTransmitStore, frameLengthStore, txTriggerStore,
          rxTriggerStore, sampleRateStore]
  | baudRate =>
      simp [Attribute.storeHandler, Attribute.writeOperation, Operation.program,
        baudRateStore]

/-! ## Requests -/

namespace Request

def operation : Request → Option Operation
  | .ioctl command arg user allocated => command.operation arg user allocated
  | .read attr => attr.readOperation
  | .write attr text => attr.writeOperation text

def respond : Request → Reply → Response
  | .ioctl command _ user _, reply =>
      let (errorCode, memory) := command.respond user reply
      .ioctl errorCode memory
  | .read _, reply => .text reply.text
  | .write _ text, _ => .count text.length

/-- The response to a request without a call. The clock rate has none when it is
read. -/
def respondAlone (card : Card) : Request → Option Response
  | .ioctl command _ user _ =>
      let (errorCode, memory) := command.respondAlone card user
      some (.ioctl errorCode memory)
  | .read .nineBit => some (.text ['0', '\n'])
  | .read _ => none
  | .write _ text => some (.count text.length)

theorem handler_eq (port : Port) (request : Request) :
    request.handler port =
      match request.operation with
      | some operation => some (request.respond <$> operation.program port)
      | none => (request.respondAlone port.card).map pure := by
  cases request with
  | ioctl command arg user allocated =>
      rw [handler, serialfcIoctl_eq, operation]
      cases command.operation arg user allocated with
      | none => rfl
      | some operation =>
          simp only [Functor.map_map]
          rfl
  | read attr =>
      rw [handler, showHandler_eq, operation]
      cases attr.readOperation with
      | none => cases attr <;> rfl
      | some operation =>
          simp only [Option.map_some, Functor.map_map]
          rfl
  | write attr text =>
      rw [handler, storeHandler_eq, operation]
      cases attr.writeOperation text with
      | none => rfl
      | some operation =>
          simp only [Functor.map_map]
          rfl

end Request

/-! ## Runs of requests -/

structure Exchange where
  channel : Nat
  request : Request
  response : Response

def Serves (card : Card) (state : CardState) (exchange : Exchange)
    (next : CardState) : Prop :=
  exchange.channel < card.numPorts ∧
    ∃ handler, exchange.request.handler ⟨card, exchange.channel⟩ = some handler ∧
      card.machine.run handler state = (some exchange.response, next)

namespace CardSettings

/-- The response of a card with these settings, and the settings after it, or
nothing if the request is not handled or its call does not return. -/
def serve (card : Card) (settings : CardSettings) (channel : Nat)
    (request : Request) : Option (Response × CardSettings) :=
  match request.operation with
  | some operation =>
      (settings.answer (fastcomGetCardType2 card) channel operation).map
        fun (reply, next) => (request.respond reply, next)
  | none => (request.respondAlone card).map fun response => (response, settings)

def Serves (card : Card) (settings : CardSettings) (exchange : Exchange)
    (next : CardSettings) : Prop :=
  exchange.channel < card.numPorts ∧
    settings.serve card exchange.channel exchange.request =
      some (exchange.response, next)

end CardSettings

section Boards

variable {fsccEnableAsync : Bool} {card : Card} {state : CardState}
  (board : boardNumPorts card.pciDev.device = some card.numPorts)
include board

theorem run_handler {settings : CardSettings}
    (reflects : Reflects card state settings) {channel : Nat}
    (inRange : channel < card.numPorts) {request : Request}
    {handler : Driver Response} (isHandler : request.handler ⟨card, channel⟩ = some handler) :
    match settings.serve card channel request with
    | some (response, after) => ∃ next,
        card.machine.run handler state = (some response, next) ∧
          Reflects card next after
    | none => (card.machine.run handler state).1 = none := by
  rw [Request.handler_eq] at isHandler
  rw [CardSettings.serve]
  cases called : request.operation with
  | none =>
      rw [called] at isHandler
      cases alone : request.respondAlone card with
      | none =>
          simp only [alone] at isHandler
          cases isHandler
      | some response =>
          simp only [alone] at isHandler
          obtain rfl : pure response = handler := Option.some.inj isHandler
          exact ⟨state, rfl, reflects⟩
  | some operation =>
      simp only [called] at isHandler
      obtain rfl : request.respond <$> operation.program ⟨card, channel⟩ = handler :=
        Option.some.inj isHandler
      have comes := comesTo_program board reflects inRange operation
      simp only [Machine.run_map]
      cases answered : settings.answer (fastcomGetCardType2 card) channel operation with
      | none =>
          rw [answered] at comes
          exact congrArg (Option.map request.respond) comes
      | some answer =>
          rw [answered] at comes
          rcases comes with ⟨next, run, reflected⟩
          refine ⟨next, ?_, reflected⟩
          exact congrArg (fun result => (result.1.map request.respond, result.2)) run

theorem responds_of_reflects {settings : CardSettings}
    (reflects : Reflects card state settings) {channel : Nat}
    (inRange : channel < card.numPorts) {request : Request}
    {handler : Driver Response} (isHandler : request.handler ⟨card, channel⟩ = some handler) :
    (card.machine.run handler state).1 =
      (settings.serve card channel request).map Prod.fst := by
  have responds := run_handler board reflects inRange isHandler
  cases served : settings.serve card channel request with
  | none =>
      simp only [served] at responds
      exact responds
  | some answer =>
      simp only [served] at responds
      rcases responds with ⟨next, run, _⟩
      exact congrArg Prod.fst run

theorem card_simulates_requests :
    Simulates (Initialised fsccEnableAsync card) (Serves card)
      (CardSettings.Fresh card) (CardSettings.Serves card) (Reflects card) := by
  refine ⟨fun _ initialised => reflects_initialised board initialised, ?_⟩
  rintro state settings ⟨channel, request, response⟩ next reflects
    ⟨inRange, handler, isHandler, run⟩
  have responds := run_handler board reflects inRange isHandler
  cases served : settings.serve card channel request with
  | none =>
      simp only [served] at responds
      rw [run] at responds
      cases responds
  | some answer =>
      rcases answer with ⟨expected, after⟩
      simp only [served] at responds
      rcases responds with ⟨actual, actualRun, reflected⟩
      rcases Prod.mk.inj (actualRun.symm.trans run) with ⟨same, rfl⟩
      obtain rfl : expected = response := Option.some.inj same
      exact ⟨after, ⟨inRange, served⟩, reflected⟩

/-- Whatever user space asked of the ports of a card, by ioctl or through their
attributes, the responses are those of its settings, and so is the next. -/
theorem reachable_serves {history : List Exchange}
    (reachable : Run (Initialised fsccEnableAsync card) (Serves card) state history) :
    ∃ settings : CardSettings,
      Run (CardSettings.Fresh card) (CardSettings.Serves card) settings history ∧
      ∀ channel < card.numPorts, ∀ request handler,
        Request.handler ⟨card, channel⟩ request = some handler →
          (card.machine.run handler state).1 =
            (settings.serve card channel request).map Prod.fst := by
  rcases (card_simulates_requests board).run reachable with ⟨settings, reflects, run⟩
  refine ⟨settings, run, ?_⟩
  intro channel inRange request handler isHandler
  exact responds_of_reflects board reflects inRange isHandler

end Boards

/-- The line of a fresh PCIe port is terminated, as the ioctl hands back. -/
theorem reachable_serves_termination :
    let card := Card.ofDevice fc422_8PcieId 8
    let getter := Request.ioctl .getTermination 0 ⟨fun _ => 0xff, 4⟩ true
    ∃ (state : CardState) (handler : Driver Response) (memory : UserMemory),
      Initialised false card state ∧ getter.handler ⟨card, 7⟩ = some handler ∧
      (card.machine.run handler state).1 = some (.ioctl 0 memory) ∧
      memory 0 = 1 ∧ memory 1 = 0 := by
  intro card getter
  have board : boardNumPorts card.pciDev.device = some card.numPorts := by
    decide
  have isPcie : fastcomGetCardType2 card = .pcie := rfl
  rcases exists_initialised_pcie isPcie (Nat.le_refl 8) false with
    ⟨state, initialised⟩
  rcases reachable_serves board (.start initialised) with ⟨settings, run, responds⟩
  cases run with
  | start fresh =>
      have value : settings.value 7 .termination = 1 :=
        fresh 7 (by decide) (.termination, defaultTermination)
          (by simp [defaultSettings]) rfl
      have answer : settings.get .pcie 7 0 .termination = (0, 1) := by
        simp [CardSettings.get, Setting.SupportedBy, value]
      have served : (settings.serve card 7 getter).map Prod.fst =
          some (.ioctl 0 (UserSpace.copyToUser ⟨fun _ => 0xff, 4⟩ 4 1).2) := by
        simp only [getter, CardSettings.serve, Request.operation, Command.operation,
          CardSettings.answer, show fastcomGetCardType2 card = .pcie from rfl, answer]
        rfl
      exact ⟨state, _, _, initialised, rfl,
        (responds 7 (by decide) getter _ rfl).trans served, by decide, by decide⟩

end SerialFc
