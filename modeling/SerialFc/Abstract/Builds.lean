import SerialFc.Interface.CommandNumbers
import SerialFc.Abstract.Requests

/-! # Programs and a driver of different builds

A program takes the numbers of its commands from its own header, and the driver
reads them by its own. Numbers that the two headers do not share are refused, as
is every ioctl of a program of another word size, and nothing is taken for
something else.
-/

namespace SerialFc

inductive SystemCall
  | ioctl (cmd : BitVec 32) (arg : BitVec 64) (user : UserSpace) (allocated : Bool)
  | read (attr : Attribute)
  | write (attr : Attribute) (text : Text)

def SystemCall.request (program : Build) : SystemCall → Request
  | .ioctl cmd arg user allocated => .ioctl (program.command cmd) arg user allocated
  | .read attr => .read attr
  | .write attr text => .write attr text

def SystemCall.handler (driver program : Build) (port : Port) :
    SystemCall → Option (Driver Response)
  | .ioctl cmd arg user allocated =>
      some ((fun result => .ioctl result.1 result.2) <$>
        driver.ioctl program port cmd arg user allocated)
  | .read attr => (Request.read attr).handler port
  | .write attr text => (Request.write attr text).handler port

structure Sent where
  program : Build
  channel : Nat
  call : SystemCall
  response : Response

namespace Sent

variable (driver : Build) (sent : Sent)

def exchange : Exchange :=
  ⟨sent.channel, sent.call.request sent.program, sent.response⟩

def Known : Prop :=
  match sent.call with
  | .ioctl cmd _ _ _ => sent.program.command cmd ≠ .unknown
  | _ => True

def TakenBy : Prop :=
  match sent.call with
  | .ioctl cmd _ _ _ => driver.Takes sent.program (sent.program.command cmd)
  | _ => True

instance : DecidablePred (TakenBy driver)
  | ⟨program, _, .ioctl cmd _ _ _, _⟩ =>
      inferInstanceAs (Decidable (driver.Takes program (program.command cmd)))
  | ⟨_, _, .read _, _⟩ | ⟨_, _, .write _ _, _⟩ => .isTrue trivial

def Refused : Prop :=
  match sent.call with
  | .ioctl _ _ user _ => sent.response = .ioctl (-enotty) user.memory
  | _ => False

end Sent

def Build.Serves (driver : Build) (card : Card) (state : CardState) (sent : Sent)
    (next : CardState) : Prop :=
  sent.channel < card.numPorts ∧
    ∃ handler,
      sent.call.handler driver sent.program ⟨card, sent.channel⟩ = some handler ∧
      card.machine.run handler state = (some sent.response, next)

section Runs

variable {driver : Build} {card : Card} {state next : CardState} {sent : Sent}

theorem Build.serves_iff_of_taken (known : sent.Known)
    (taken : sent.TakenBy driver) :
    driver.Serves card state sent next ↔
      SerialFc.Serves card state sent.exchange next := by
  rcases sent with ⟨program, channel, call, response⟩
  cases call with
  | ioctl cmd arg user allocated =>
      simp only [Build.Serves, SystemCall.handler,
        Build.ioctl_of_takes known taken]
      rfl
  | read | write => rfl

theorem Build.serves_iff_of_not_taken (known : sent.Known)
    (notTaken : ¬sent.TakenBy driver) :
    driver.Serves card state sent next ↔
      sent.channel < card.numPorts ∧ next = state ∧ sent.Refused := by
  rcases sent with ⟨program, channel, call, response⟩
  cases call with
  | ioctl cmd arg user allocated =>
      simp only [Build.Serves, SystemCall.handler,
        Build.ioctl_of_not_takes known notTaken]
      constructor
      · rintro ⟨inRange, handler, isHandler, run⟩
        cases isHandler
        cases run
        exact ⟨inRange, rfl, rfl⟩
      · rintro ⟨inRange, rfl, isRefused⟩
        refine ⟨inRange, _, rfl, ?_⟩
        rw [show response = _ from isRefused]
        rfl
  | read | write => exact absurd trivial notTaken

/-- Whatever programs of whatever builds call, in any order: the card is in the
state, and has given the responses, of the calls that the driver takes, each for
what its program meant. The others were refused. -/
theorem run_serves_shared {start : CardState → Prop} {history : List Sent}
    (run : Run start (driver.Serves card) state history)
    (known : ∀ sent ∈ history, sent.Known) :
    Run start (Serves card) state
        ((history.filter (Sent.TakenBy driver)).map Sent.exchange) ∧
      ∀ sent ∈ history, ¬sent.TakenBy driver → sent.Refused := by
  induction run with
  | start started =>
      refine ⟨.start started, ?_⟩
      intro sent absent
      cases absent
  | @step state next sent history _ serves induction =>
      rcases List.forall_mem_cons.mp known with ⟨knownSent, knownEarlier⟩
      rcases induction knownEarlier with ⟨taken, refused⟩
      by_cases isTaken : sent.TakenBy driver
      · rw [List.filter_cons_of_pos (by simpa using isTaken), List.map_cons]
        have meant := (Build.serves_iff_of_taken knownSent isTaken).mp serves
        refine ⟨.step taken meant, ?_⟩
        exact List.forall_mem_cons.mpr ⟨fun notTaken => absurd isTaken notTaken,
          refused⟩
      · rcases (Build.serves_iff_of_not_taken knownSent isTaken).mp serves with
          ⟨_, rfl, isRefused⟩
        rw [List.filter_cons_of_neg (by simpa using isTaken)]
        exact ⟨taken, List.forall_mem_cons.mpr ⟨fun _ => isRefused, refused⟩⟩

end Runs

/-- A driver of the next release refuses today's number of the clock bits, and
a program of half its word size, and tells the card type as ever. -/
theorem run_serves_shared_clockBits :
    let driver : Build := ⟨true, 8⟩
    let program : Build := ⟨false, 8⟩
    let narrow : Build := ⟨true, 4⟩
    let card := Card.ofDevice fsccId 2
    let user : UserSpace := ⟨fun _ => 0, 20⟩
    let fscc := (user.answer 0 2).2
    let setClockBits : Sent :=
      ⟨program, 0, .ioctl 0x4014191c 0 user true, .ioctl (-enotty) user.memory⟩
    let enableRs485 : Sent :=
      ⟨narrow, 0, .ioctl 0x1900 0 user true, .ioctl (-enotty) user.memory⟩
    let getCardType : Sent :=
      ⟨program, 1, .ioctl 0x80081918 0 user true, .ioctl 0 fscc⟩
    Run (· = CardState.blank) (driver.Serves card) CardState.blank
        [getCardType, enableRs485, setClockBits] ∧
      Run (· = CardState.blank) (Serves card) CardState.blank
        [⟨1, .ioctl .getCardType 0 user true, .ioctl 0 fscc⟩] ∧
      setClockBits.Refused ∧ enableRs485.Refused := by
  intro driver program narrow card user fscc setClockBits enableRs485 getCardType
  have cardType : program.command 0x80081918 = .getCardType := by
    decide
  have knownFirst : setClockBits.Known := by
    change program.command 0x4014191c ≠ .unknown
    decide
  have knownSecond : enableRs485.Known := by
    change narrow.command 0x1900 ≠ .unknown
    decide
  have knownThird : getCardType.Known := by
    change program.command 0x80081918 ≠ .unknown
    decide
  have notTakenFirst : ¬setClockBits.TakenBy driver := by
    decide
  have notTakenSecond : ¬enableRs485.TakenBy driver := by
    decide
  have takenThird : getCardType.TakenBy driver := by
    decide
  have first : driver.Serves card .blank setClockBits .blank :=
    (Build.serves_iff_of_not_taken knownFirst notTakenFirst).mpr
      ⟨by decide, rfl, rfl⟩
  have second : driver.Serves card .blank enableRs485 .blank :=
    (Build.serves_iff_of_not_taken knownSecond notTakenSecond).mpr
      ⟨by decide, rfl, rfl⟩
  have third : driver.Serves card .blank getCardType .blank := by
    apply (Build.serves_iff_of_taken knownThird takenThird).mpr
    refine ⟨by decide, _, rfl, ?_⟩
    simp only [Sent.exchange, getCardType, SystemCall.request, cardType]
    rfl
  have run : Run (· = CardState.blank) (driver.Serves card) CardState.blank
      [getCardType, enableRs485, setClockBits] :=
    .step (.step (.step (.start rfl) first) second) third
  have known : ∀ sent ∈ [getCardType, enableRs485, setClockBits], sent.Known := by
    refine List.forall_mem_cons.mpr ⟨knownThird, ?_⟩
    exact List.forall_mem_cons.mpr
      ⟨knownSecond, List.forall_mem_singleton.mpr knownFirst⟩
  rcases run_serves_shared run known with ⟨meant, isRefused⟩
  refine ⟨run, ?_, isRefused setClockBits (by simp) notTakenFirst,
    isRefused enableRs485 (by simp) notTakenSecond⟩
  rw [List.filter_cons_of_pos (by simpa using takenThird),
    List.filter_cons_of_neg (by simpa using notTakenSecond),
    List.filter_cons_of_neg (by simpa using notTakenFirst), List.filter_nil]
    at meant
  simp only [List.map_cons, List.map_nil, Sent.exchange, getCardType,
    SystemCall.request, cardType] at meant
  exact meant

end SerialFc
