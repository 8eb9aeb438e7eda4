import SerialFc.Foundation.Purge
import SerialFc.Abstract.Requests

/-! # What users of a card notice of each other

A request that sets nothing is noticed by nobody, and what is asked of one port
is not noticed at another. A PCI card has one echo cancel pin for all of its
ports, which the driver enable of the fifth port drives as well.
-/

namespace SerialFc

/-! ## Who notices what -/

def Exchange.asks (exchange : Exchange) : Nat × Request :=
  (exchange.channel, exchange.request)

/-- The call sets what drives the echo cancel pin of a PCI card. -/
def Operation.DrivesEchoCancel (channel : Nat) : Operation → Prop
  | .set setting _ => setting = .echoCancel ∨ setting = .rs485 ∧ channel = 4
  | _ => False

instance (channel : Nat) : DecidablePred (Operation.DrivesEchoCancel channel)
  | .set _ _ => inferInstanceAs (Decidable (_ ∨ _ ∧ _))
  | .get _ _ | .setClockBits _ _ | .enableAsyncMode | .disableAsyncMode
  | .setBaudRate _ | .getBaudRate _ => .isFalse not_false

def Request.Calls (request : Request) : Prop :=
  ∃ operation ∈ request.operation, operation.isGet = false

instance : DecidablePred Request.Calls :=
  fun request => inferInstanceAs (Decidable (∃ operation ∈ request.operation, _))

/-- The request is to the port, or drives the pin that it shares. -/
def Exchange.Concerns (card : Card) (channel : Nat) (exchange : Exchange) : Prop :=
  exchange.channel = channel ∨
    fastcomGetCardType2 card = .pci ∧
      ∃ operation ∈ exchange.request.operation,
        operation.DrivesEchoCancel exchange.channel

instance (card : Card) (channel : Nat) :
    DecidablePred (Exchange.Concerns card channel) :=
  fun exchange => inferInstanceAs
    (Decidable (_ ∨ _ ∧ ∃ operation ∈ exchange.request.operation, _))

namespace CardSettings

structure SameAt (channel : Nat) (settings others : CardSettings) : Prop where
  firmware : settings.firmware = others.firmware
  value : settings.value channel = others.value channel
  divisor : settings.divisor channel = others.divisor channel

section Answers

variable {type : CardType} {settings others after : CardSettings} {channel : Nat}

theorem SameAt.refl (settings : CardSettings) (channel : Nat) :
    settings.SameAt channel settings :=
  ⟨rfl, rfl, rfl⟩

theorem SameAt.symm (same : settings.SameAt channel others) :
    others.SameAt channel settings :=
  ⟨same.firmware.symm, same.value.symm, same.divisor.symm⟩

theorem SameAt.trans {third : CardSettings} (first : settings.SameAt channel others)
    (second : others.SameAt channel third) : settings.SameAt channel third :=
  ⟨first.firmware.trans second.firmware, first.value.trans second.value,
    first.divisor.trans second.divisor⟩

theorem SameAt.get (same : settings.SameAt channel others) (before : BitVec 32)
    (setting : Setting) :
    settings.get type channel before setting = others.get type channel before setting := by
  rw [CardSettings.get, CardSettings.get, same.firmware, same.value]

theorem SameAt.set (same : settings.SameAt channel others) (other : Nat)
    (argument : BitVec 32) (setting : Setting) :
    (settings.set type other argument setting).SameAt channel
      (others.set type other argument setting) := by
  refine ⟨same.firmware, ?_, same.divisor⟩
  funext kind
  simp only [CardSettings.set, same.value]

theorem answer_of_isGet {operation : Operation} (isGet : operation.isGet = true)
    {reply : Reply}
    (answered : settings.answer type channel operation = some (reply, after)) :
    after = settings := by
  cases operation with
  | get setting before =>
      cases answered
      rfl
  | getBaudRate before =>
      rw [answer] at answered
      split_ifs at answered
      · rcases Option.map_eq_some_iff.mp answered with ⟨_, _, same⟩
        exact (Prod.mk.inj same).2.symm
      · cases answered
        rfl
  | _ => cases isGet

theorem answer_of_ne {other : Nat} (different : other ≠ channel)
    {operation : Operation}
    (apart : type = .pci → ¬operation.DrivesEchoCancel other)
    {reply : Reply}
    (answered : settings.answer type other operation = some (reply, after)) :
    after.SameAt channel settings := by
  cases operation with
  | set setting value =>
      rw [answer] at answered
      rcases Prod.mk.inj (Option.some.inj answered) with ⟨_, rfl⟩
      split_ifs
      · refine ⟨rfl, ?_, rfl⟩
        funext kind
        have notShared : ¬(kind = setting ∧
            (channel = other ∨ type = .pci ∧ kind = .echoCancel)) := by
          rintro ⟨rfl, same | ⟨pci, isEcho⟩⟩
          · exact different same.symm
          · exact apart pci (.inl isEcho)
        have notPin : ¬(type = .pci ∧ setting = .rs485 ∧ other = 4 ∧
            kind = .echoCancel) := by
          rintro ⟨pci, isRs485, fifth, _⟩
          exact apart pci (.inr ⟨isRs485, fifth⟩)
        exact (if_neg notShared).trans (if_neg notPin)
      · exact .refl settings channel
  | setBaudRate value =>
      rw [answer] at answered
      split_ifs at answered
      · rcases Option.map_eq_some_iff.mp answered with ⟨⟨status, next⟩, isSet, same⟩
        obtain rfl := (Prod.mk.inj same).2
        simp only [setBaudRate] at isSet
        split_ifs at isSet
        · cases isSet
          exact .refl settings channel
        · cases isSet
          exact ⟨rfl, rfl, Function.update_of_ne different.symm _ _⟩
      · cases answered
        exact .refl settings channel
  | get | getBaudRate =>
      rw [answer_of_isGet rfl answered]
      exact .refl settings channel
  | setClockBits | enableAsyncMode | disableAsyncMode =>
      cases answered
      exact .refl settings channel

theorem SameAt.answer (same : settings.SameAt channel others) {other : Nat}
    {operation : Operation}
    (concerns : other = channel ∨ ∃ setting value, operation = .set setting value)
    {reply : Reply}
    (answered : settings.answer type other operation = some (reply, after)) :
    ∃ otherAfter, others.answer type other operation = some (reply, otherAfter) ∧
      after.SameAt channel otherAfter := by
  cases operation with
  | set setting value =>
      rw [CardSettings.answer] at answered
      rcases Prod.mk.inj (Option.some.inj answered) with ⟨rfl, rfl⟩
      rw [same.firmware]
      refine ⟨_, rfl, ?_⟩
      split_ifs
      · exact same.set other value setting
      · exact same
  | get setting before =>
      rcases concerns with rfl | ⟨_, _, isSet⟩
      · rw [CardSettings.answer, same.get] at answered
        cases answered
        exact ⟨others, rfl, same⟩
      · cases isSet
  | setBaudRate value =>
      rcases concerns with rfl | ⟨_, _, isSet⟩
      · rw [CardSettings.answer] at answered ⊢
        split_ifs at answered ⊢
        · rcases Option.map_eq_some_iff.mp answered with
            ⟨⟨status, next⟩, isSet, equal⟩
          rcases Prod.mk.inj equal with ⟨rfl, rfl⟩
          simp only [setBaudRate, same.value] at isSet ⊢
          split_ifs at isSet ⊢
          · cases isSet
            exact ⟨others, rfl, same⟩
          · cases isSet
            refine ⟨_, rfl, same.firmware, same.value, ?_⟩
            simp
        · cases answered
          exact ⟨others, rfl, same⟩
      · cases isSet
  | getBaudRate before =>
      rcases concerns with rfl | ⟨_, _, isSet⟩
      · rw [CardSettings.answer] at answered ⊢
        split_ifs at answered ⊢
        · rcases Option.map_eq_some_iff.mp answered with ⟨rate, isRate, equal⟩
          rcases Prod.mk.inj equal with ⟨rfl, rfl⟩
          rw [getBaudRate, same.value, same.divisor] at isRate
          rw [getBaudRate, isRate]
          exact ⟨others, rfl, same⟩
        · cases answered
          exact ⟨others, rfl, same⟩
      · cases isSet
  | setClockBits | enableAsyncMode | disableAsyncMode =>
      cases answered
      exact ⟨others, rfl, same⟩

end Answers

variable {card : Card} {settings others after : CardSettings} {channel : Nat}

theorem serve_of_not_calls {other : Nat} {request : Request}
    (noCall : ¬request.Calls) {response : Response}
    (served : settings.serve card other request = some (response, after)) :
    after = settings := by
  rw [serve] at served
  cases called : request.operation with
  | none =>
      rw [called] at served
      rcases Option.map_eq_some_iff.mp served with ⟨_, _, same⟩
      exact (Prod.mk.inj same).2.symm
  | some operation =>
      rw [called] at served
      have isGet : operation.isGet = true := by
        by_contra notGet
        exact noCall ⟨operation, called, by simpa using notGet⟩
      rcases Option.map_eq_some_iff.mp served with ⟨⟨reply, next⟩, answered, same⟩
      rw [answer_of_isGet isGet answered] at same
      exact (Prod.mk.inj same).2.symm

theorem Serves.sameAt {exchange : Exchange}
    (serves : settings.Serves card exchange after)
    (apart : ¬exchange.Concerns card channel) : after.SameAt channel settings := by
  rcases exchange with ⟨other, request, response⟩
  rcases not_or.mp apart with ⟨different, notDriven⟩
  have served := serves.2
  rw [serve] at served
  cases called : request.operation with
  | none =>
      simp only [called] at served
      rcases Option.map_eq_some_iff.mp served with ⟨_, _, same⟩
      rw [← (Prod.mk.inj same).2]
      exact .refl settings channel
  | some operation =>
      simp only [called] at served
      rcases Option.map_eq_some_iff.mp served with ⟨⟨reply, next⟩, answered, same⟩
      obtain rfl := (Prod.mk.inj same).2
      refine answer_of_ne different ?_ answered
      intro pci driven
      exact notDriven ⟨pci, operation, called, driven⟩

theorem SameAt.serves {exchange : Exchange} (same : settings.SameAt channel others)
    (concerns : exchange.Concerns card channel)
    (serves : settings.Serves card exchange after) :
    ∃ otherAfter, others.Serves card exchange otherAfter ∧
      after.SameAt channel otherAfter := by
  rcases exchange with ⟨other, request, response⟩
  rcases serves with ⟨inRange, served⟩
  simp only [serve] at served
  cases called : request.operation with
  | none =>
      simp only [called] at served
      rcases Option.map_eq_some_iff.mp served with ⟨_, alone, equal⟩
      rcases Prod.mk.inj equal with ⟨rfl, rfl⟩
      refine ⟨others, ⟨inRange, ?_⟩, same⟩
      simp only [serve, called, alone]
      rfl
  | some operation =>
      simp only [called] at served
      rcases Option.map_eq_some_iff.mp served with ⟨⟨reply, next⟩, answered, equal⟩
      rcases Prod.mk.inj equal with ⟨rfl, rfl⟩
      have sets : other = channel ∨ ∃ setting value, operation = .set setting value := by
        rcases concerns with here | ⟨_, driver, isDriver, driven⟩
        · exact .inl here
        · obtain rfl : operation = driver :=
            Option.some.inj (called.symm.trans isDriver)
          cases operation with
          | set setting value => exact .inr ⟨setting, value, rfl⟩
          | _ => cases driven
      rcases same.answer sets answered with ⟨otherAfter, otherAnswered, sameAfter⟩
      refine ⟨otherAfter, ⟨inRange, ?_⟩, sameAfter⟩
      simp only [serve, called, otherAnswered]
      rfl

theorem SameAt.responds (same : settings.SameAt channel others)
    (inRange : channel < card.numPorts) (request : Request) :
    (settings.serve card channel request).map Prod.fst =
      (others.serve card channel request).map Prod.fst := by
  have follows : ∀ {settings others : CardSettings}, settings.SameAt channel others →
      ∀ response, (settings.serve card channel request).map Prod.fst = some response →
        (others.serve card channel request).map Prod.fst = some response := by
    intro settings others same response isResponse
    rcases Option.map_eq_some_iff.mp isResponse with ⟨⟨_, after⟩, served, rfl⟩
    rcases @SameAt.serves card _ _ after _ ⟨channel, request, _⟩ same (.inl rfl)
      ⟨inRange, served⟩ with ⟨otherAfter, serves, _⟩
    rw [serves.2]
    rfl
  apply Option.ext
  intro response
  exact ⟨follows same response, follows same.symm response⟩

end CardSettings

/-! ## Cards -/

section Boards

variable {fsccEnableAsync : Bool} {card : Card} {state : CardState}
  (board : boardNumPorts card.pciDev.device = some card.numPorts)
include board

omit board in
theorem serves_functional : Functional (Serves card) Exchange.asks := by
  rintro state ⟨channel, request, first⟩ ⟨_, _, second⟩ firstNext secondNext asked
    ⟨_, handler, isHandler, run⟩ ⟨_, same, isSame, sameRun⟩
  rcases Prod.mk.inj asked with ⟨rfl, rfl⟩
  obtain rfl : handler = same := Option.some.inj (isHandler.symm.trans isSame)
  rcases Prod.mk.inj (run.symm.trans sameRun) with ⟨responses, rfl⟩
  obtain rfl : first = second := Option.some.inj responses
  exact ⟨rfl, rfl⟩

theorem serves_of_reflects {settings after : CardSettings}
    (reflects : Reflects card state settings) {exchange : Exchange}
    (handled : (exchange.request.handler ⟨card, exchange.channel⟩).isSome)
    (serves : settings.Serves card exchange after) :
    ∃ next, Serves card state exchange next ∧ Reflects card next after := by
  rcases Option.isSome_iff_exists.mp handled with ⟨handler, isHandler⟩
  have responds := run_handler board reflects serves.1 isHandler
  simp only [serves.2] at responds
  rcases responds with ⟨next, run, reflected⟩
  exact ⟨next, ⟨serves.1, handler, isHandler, run⟩, reflected⟩

theorem hides_of_settings {shown : Exchange → Prop}
    {alike : CardSettings → CardSettings → Prop}
    (hides : Hides (CardSettings.Serves card) shown alike) :
    Hides (Serves card) shown fun state other =>
      ∃ settings others, Reflects card state settings ∧
        Reflects card other others ∧ alike settings others := by
  have simulates := @card_simulates_requests false card board
  constructor
  · rintro state other exchange next ⟨settings, others, reflects, reflected, related⟩
      isHidden serves
    rcases simulates.steps _ _ _ _ reflects serves with ⟨after, served, reflectsNext⟩
    exact ⟨after, others, reflectsNext, reflected,
      hides.hidden related isHidden served⟩
  · rintro state other exchange next ⟨settings, others, reflects, reflected, related⟩
      isShown serves
    rcases simulates.steps _ _ _ _ reflects serves with ⟨after, served, reflectsNext⟩
    rcases hides.follows related isShown served with ⟨otherAfter, follows, relatedAfter⟩
    rcases serves with ⟨_, handler, isHandler, _⟩
    rcases serves_of_reflects board reflected
      (Option.isSome_iff_exists.mpr ⟨handler, isHandler⟩) follows with
      ⟨otherNext, otherServes, otherReflects⟩
    exact ⟨otherNext, otherServes, after, otherAfter, reflectsNext, otherReflects,
      relatedAfter⟩

section TwoRuns

variable {first left right : CardState}
  (initialised : Initialised fsccEnableAsync card first)
  {leftHistory rightHistory : List Exchange}
  (leftRun : Run (· = first) (Serves card) left leftHistory)
  (rightRun : Run (· = first) (Serves card) right rightHistory)
include initialised leftRun rightRun

/-- Where the settings answer alike in states alike, two runs in which the same is
asked to be shown end in states that respond alike. -/
theorem shows_same_of_settings {shown : Exchange → Prop} [DecidablePred shown]
    {alike : CardSettings → CardSettings → Prop}
    (hides : Hides (CardSettings.Serves card) shown alike)
    (refl : ∀ settings, alike settings settings)
    (asked : (leftHistory.filter shown).map Exchange.asks =
      (rightHistory.filter shown).map Exchange.asks) :
    leftHistory.filter shown = rightHistory.filter shown ∧
      ∀ channel < card.numPorts, ∀ request,
        (∀ settings others, alike settings others →
          (settings.serve card channel request).map Prod.fst =
            (others.serve card channel request).map Prod.fst) →
        ∀ handler, Request.handler ⟨card, channel⟩ request = some handler →
          (card.machine.run handler left).1 = (card.machine.run handler right).1 := by
  rcases reflects_initialised board initialised with ⟨settings, _, reflects⟩
  rcases (hides_of_settings board hides).shows_same serves_functional
    ⟨settings, settings, reflects, reflects, refl settings⟩ leftRun rightRun asked with
    ⟨shows, other, leftAlike, rightAlike⟩
  refine ⟨shows, ?_⟩
  intro channel inRange request responds handler isHandler
  have agrees : ∀ state, (∃ settings others, Reflects card state settings ∧
      Reflects card other others ∧ alike settings others) →
      (card.machine.run handler state).1 = (card.machine.run handler other).1 := by
    rintro state ⟨settings, others, reflects, reflected, related⟩
    rw [responds_of_reflects board reflects inRange isHandler,
      responds_of_reflects board reflected inRange isHandler]
    exact responds settings others related
  exact (agrees left leftAlike).trans (agrees right rightAlike).symm

/-- Requests that set nothing may be left out or put in anywhere: everything else
gets the same responses, and then any request does. -/
theorem reads_unnoticed
    (asked : (leftHistory.filter fun exchange => exchange.request.Calls).map
        Exchange.asks =
      (rightHistory.filter fun exchange => exchange.request.Calls).map
        Exchange.asks) :
    (leftHistory.filter fun exchange => exchange.request.Calls) =
        (rightHistory.filter fun exchange => exchange.request.Calls) ∧
      ∀ channel < card.numPorts, ∀ request handler,
        Request.handler ⟨card, channel⟩ request = some handler →
          (card.machine.run handler left).1 = (card.machine.run handler right).1 := by
  have hides : Hides (CardSettings.Serves card)
      (fun exchange => exchange.request.Calls) Eq := by
    constructor
    · rintro state _ exchange next rfl noCall serves
      exact CardSettings.serve_of_not_calls noCall serves.2
    · rintro state _ exchange next rfl _ serves
      exact ⟨next, serves, rfl⟩
  rcases shows_same_of_settings board initialised leftRun rightRun hides
    (fun _ => rfl) asked with ⟨shows, responds⟩
  refine ⟨shows, ?_⟩
  intro channel inRange request
  refine responds channel inRange request ?_
  rintro settings _ rfl
  rfl

/-- What is asked of the other ports, and when, makes no difference to the
responses at a port. On a PCI card this leaves out what drives echo cancel. -/
theorem otherPorts_unnoticed {channel : Nat} (inRange : channel < card.numPorts)
    (asked : (leftHistory.filter (Exchange.Concerns card channel)).map Exchange.asks =
      (rightHistory.filter (Exchange.Concerns card channel)).map Exchange.asks) :
    leftHistory.filter (Exchange.Concerns card channel) =
        rightHistory.filter (Exchange.Concerns card channel) ∧
      ∀ request handler, Request.handler ⟨card, channel⟩ request = some handler →
        (card.machine.run handler left).1 = (card.machine.run handler right).1 := by
  have hides : Hides (CardSettings.Serves card) (Exchange.Concerns card channel)
      (CardSettings.SameAt channel) := by
    constructor
    · intro state other exchange next same apart serves
      exact (serves.sameAt apart).trans same
    · intro state other exchange next same concerns serves
      exact same.serves concerns serves
  rcases shows_same_of_settings board initialised leftRun rightRun hides
    (fun settings => .refl settings channel) asked with ⟨shows, responds⟩
  refine ⟨shows, ?_⟩
  intro request
  refine responds channel inRange request ?_
  intro settings others same
  exact same.responds inRange request

end TwoRuns

end Boards

/-- Reading a transmit trigger level of an FSCC port, which goes through its index
register, makes no difference to a later reading. -/
theorem reads_unnoticed_txTrigger :
    let card := Card.ofDevice fsccId 2
    ∃ (first next : CardState) (response : Response) (handler : Driver Response),
      Initialised false card first ∧
      Serves card first ⟨1, .read (.setting .txTrigger), response⟩ next ∧
      Request.handler ⟨card, 1⟩ (.read (.setting .txTrigger)) = some handler ∧
      (card.machine.run handler next).1 = (card.machine.run handler first).1 := by
  intro card
  have board : boardNumPorts card.pciDev.device = some card.numPorts := by
    decide
  have isFscc : fastcomGetCardType2 card = .fscc := rfl
  rcases exists_initialised_fscc isFscc rfl false with ⟨first, initialised⟩
  rcases reflects_initialised board initialised with ⟨settings, _, reflects⟩
  have served : settings.serve card 1 (.read (.setting .txTrigger)) =
      some (_, settings) := rfl
  rcases @serves_of_reflects card first board settings _ reflects ⟨1, _, _⟩ rfl
    ⟨show 1 < card.numPorts by decide, served⟩ with ⟨next, serves, _⟩
  have same := (reads_unnoticed board initialised
    (.step (.start rfl) serves) (.start rfl) (by rfl)).2
  exact ⟨first, next, _, _, initialised, serves, rfl,
    same 1 (by decide) (.read (.setting .txTrigger)) _ rfl⟩

/-- The sample rate of one PCIe port stays as it was when another one's is set. -/
theorem otherPorts_unnoticed_sampleRate :
    let card := Card.ofDevice fc422_8PcieId 8
    ∃ (first next : CardState) (handler : Driver Response),
      Initialised false card first ∧
      Serves card first ⟨5, .write (.setting .sampleRate) ['8', '\n'], .count 2⟩ next ∧
      Request.handler ⟨card, 1⟩ (.read (.setting .sampleRate)) = some handler ∧
      (card.machine.run handler next).1 = (card.machine.run handler first).1 := by
  intro card
  have board : boardNumPorts card.pciDev.device = some card.numPorts := by
    decide
  have isPcie : fastcomGetCardType2 card = .pcie := rfl
  rcases exists_initialised_pcie isPcie (Nat.le_refl 8) false with
    ⟨first, initialised⟩
  rcases reflects_initialised board initialised with ⟨settings, _, reflects⟩
  have served : settings.serve card 5 (.write (.setting .sampleRate) ['8', '\n']) =
      some (.count 2, _) := rfl
  rcases @serves_of_reflects card first board settings _ reflects ⟨5, _, _⟩ rfl
    ⟨show 5 < card.numPorts by decide, served⟩ with ⟨next, serves, _⟩
  have same := (otherPorts_unnoticed board initialised
    (.step (.start rfl) serves) (.start rfl) (show 1 < card.numPorts by decide)
    (by rfl)).2
  exact ⟨first, next, _, initialised, serves, rfl,
    same (.read (.setting .sampleRate)) _ rfl⟩

end SerialFc
