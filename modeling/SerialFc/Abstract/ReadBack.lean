import SerialFc.Abstract.Requests

/-! # What is read is what was last set

A setting can be set through two interfaces and be read through both. The
settings say which request set it last; the card follows.
-/

namespace SerialFc

/-! ## What a request sets -/

/-- On a PCI card echo cancel belongs to the board. -/
def Setting.owner (type : CardType) (channel : Nat) (setting : Setting) :
    Nat × Setting :=
  if type = .pci ∧ setting = .echoCancel then (0, setting) else (channel, setting)

def Exchange.sets (card : Card) (firmware : Nat → Nat) (exchange : Exchange) :
    Option ((Nat × Setting) × BitVec 32) :=
  match exchange.request.operation with
  | some (.set setting value) =>
      if InOperatingRange (fastcomGetCardType2 card) (firmware exchange.channel) value
          setting then
        some (setting.owner (fastcomGetCardType2 card) exchange.channel,
          setting.denote value)
      else none
  | _ => none

theorem Setting.owner_eq_iff {type : CardType} {channel other : Nat}
    {setting kind : Setting} :
    kind.owner type other = setting.owner type channel ↔
      kind = setting ∧ (other = channel ∨ type = .pci ∧ kind = .echoCancel) := by
  unfold owner
  by_cases board : type = .pci ∧ kind = .echoCancel
  · rcases board with ⟨rfl, rfl⟩
    by_cases isEcho : setting = .echoCancel
    · simp [isEcho]
    · simp [isEcho, Ne.symm isEcho]
  · by_cases otherBoard : type = .pci ∧ setting = .echoCancel
    · rcases otherBoard with ⟨rfl, rfl⟩
      have notEcho : kind ≠ .echoCancel := fun isEcho => board ⟨rfl, isEcho⟩
      simp [notEcho]
    · rw [if_neg board, if_neg otherBoard, Prod.mk.injEq, or_iff_left board]
      exact and_comm

namespace CardSettings

variable {type : CardType} {settings after : CardSettings} {channel : Nat}

theorem setBaudRate_keeps {value : Nat} {status : Int}
    (isSet : settings.setBaudRate channel value = some (status, after)) :
    after.firmware = settings.firmware ∧ after.value = settings.value := by
  simp only [setBaudRate] at isSet
  split_ifs at isSet
  · obtain rfl : settings = after := (Prod.mk.inj (Option.some.inj isSet)).2
    exact ⟨rfl, rfl⟩
  · obtain rfl := (Prod.mk.inj (Option.some.inj isSet)).2
    exact ⟨rfl, rfl⟩

theorem answer_cases {operation : Operation} {reply : Reply}
    (answered : settings.answer type channel operation = some (reply, after)) :
    after.firmware = settings.firmware ∧
      ((∃ setting value, operation = .set setting value ∧
          InOperatingRange type (settings.firmware channel) value setting ∧
          after = settings.set type channel value setting) ∨
        ((∀ setting value, operation = .set setting value →
            ¬InOperatingRange type (settings.firmware channel) value setting) ∧
          after.value = settings.value)) := by
  by_cases isSet : ∃ setting value, operation = .set setting value
  · rcases isSet with ⟨setting, value, rfl⟩
    by_cases inRange : InOperatingRange type (settings.firmware channel) value setting
    · simp only [answer, Setting.status, if_pos inRange, if_true] at answered
      obtain rfl := (Prod.mk.inj (Option.some.inj answered)).2
      exact ⟨rfl, .inl ⟨setting, value, rfl, inRange, rfl⟩⟩
    · simp only [answer, Setting.status, if_neg inRange,
        if_neg (Setting.refusal_ne_zero type value setting)] at answered
      obtain rfl := (Prod.mk.inj (Option.some.inj answered)).2
      refine ⟨rfl, .inr ⟨?_, rfl⟩⟩
      rintro _ _ ⟨⟩
      exact inRange
  · have notSet : ∀ setting value, operation = .set setting value →
        ¬InOperatingRange type (settings.firmware channel) value setting :=
      fun setting value same => absurd ⟨setting, value, same⟩ isSet
    suffices kept : after.firmware = settings.firmware ∧
        after.value = settings.value from ⟨kept.1, .inr ⟨notSet, kept.2⟩⟩
    cases operation with
    | set setting value => exact absurd ⟨setting, value, rfl⟩ isSet
    | setBaudRate value =>
        rw [answer] at answered
        split_ifs at answered
        · rcases Option.map_eq_some_iff.mp answered with ⟨⟨status, next⟩, rate, same⟩
          obtain rfl := (Prod.mk.inj same).2
          exact setBaudRate_keeps rate
        · obtain rfl := (Prod.mk.inj (Option.some.inj answered)).2
          exact ⟨rfl, rfl⟩
    | getBaudRate before =>
        rw [answer] at answered
        split_ifs at answered
        · rcases Option.map_eq_some_iff.mp answered with ⟨rate, _, same⟩
          obtain rfl := (Prod.mk.inj same).2
          exact ⟨rfl, rfl⟩
        · obtain rfl := (Prod.mk.inj (Option.some.inj answered)).2
          exact ⟨rfl, rfl⟩
    | _ =>
        obtain rfl : settings = after := (Prod.mk.inj (Option.some.inj answered)).2
        exact ⟨rfl, rfl⟩

variable {card : Card}

theorem Serves.cases {exchange : Exchange}
    (serves : settings.Serves card exchange after) :
    after.firmware = settings.firmware ∧
      ((∃ setting value, exchange.sets card settings.firmware =
            some (setting.owner (fastcomGetCardType2 card) exchange.channel,
              setting.denote value) ∧
          after = settings.set (fastcomGetCardType2 card) exchange.channel value
            setting) ∨
        (exchange.sets card settings.firmware = none ∧
          after.value = settings.value)) := by
  rcases exchange with ⟨channel, request, response⟩
  have served := serves.2
  rw [serve] at served
  unfold Exchange.sets
  cases called : request.operation with
  | none =>
      simp only [called] at served ⊢
      rcases Option.map_eq_some_iff.mp served with ⟨alone, _, same⟩
      obtain rfl := (Prod.mk.inj same).2
      exact ⟨rfl, .inr ⟨trivial, rfl⟩⟩
  | some operation =>
      simp only [called] at served ⊢
      rcases Option.map_eq_some_iff.mp served with ⟨⟨reply, next⟩, answered, same⟩
      obtain rfl := (Prod.mk.inj same).2
      rcases answer_cases answered with ⟨firmware, outcome⟩
      refine ⟨firmware, ?_⟩
      rcases outcome with ⟨setting, value, rfl, inRange, rfl⟩ | ⟨refused, kept⟩
      · exact .inl ⟨setting, value, if_pos inRange, rfl⟩
      · refine .inr ⟨?_, kept⟩
        cases operation with
        | set setting value => exact if_neg (refused setting value rfl)
        | _ => rfl

theorem run_firmware {history : List Exchange}
    (run : Run (Fresh card) (Serves card) settings history) :
    Run (fun first => first.Fresh card ∧ first.firmware = settings.firmware)
      (Serves card) settings history := by
  induction run with
  | start fresh => exact .start ⟨fresh, rfl⟩
  | step _ serves induction =>
      rw [← serves.cases.1] at induction
      exact .step induction serves

/-- The settings hold what was last set. On a PCI card this takes no more than
four ports: RS485 of the fifth drives echo cancel. -/
theorem value_lastSet (few : fastcomGetCardType2 card = .pci → card.numPorts ≤ 4)
    {history : List Exchange}
    (run : Run (Fresh card) (Serves card) settings history) {setting : Setting}
    {value : BitVec 32}
    (isLast : lastWrite (Exchange.sets card settings.firmware) history
      (setting.owner (fastcomGetCardType2 card) channel) = some value) :
    settings.value channel setting = value := by
  have isRecorded : recorded (Exchange.sets card settings.firmware) (fun _ => none)
      history (setting.owner (fastcomGetCardType2 card) channel) = some value := by
    simpa [recorded] using isLast
  refine Run.tracks (fun other => other.firmware = settings.firmware)
    (fun settings key value => ∀ channel setting,
      setting.owner (fastcomGetCardType2 card) channel = key →
        settings.value channel setting = value)
    (run_firmware run) (fun _ started => started.2)
    (fun _ _ _ _ isNone => by cases isNone) ?_ ?_ ?_ isRecorded channel setting rfl
  · intro before exchange next valid serves
    exact serves.cases.1.trans valid
  · rintro before exchange next _ value valid serves written channel setting rfl
    rw [← valid] at written
    rcases serves.cases.2 with ⟨kind, argument, sets, rfl⟩ | ⟨none, _⟩
    · rw [sets] at written
      rcases Prod.mk.inj (Option.some.inj written) with ⟨owner, rfl⟩
      rcases Setting.owner_eq_iff.mp owner with ⟨rfl, owned⟩
      exact if_pos ⟨rfl, owned.imp_left Eq.symm⟩
    · rw [none] at written
      cases written
  · rintro before exchange next _ value valid serves kept holds channel setting rfl
    rw [← valid] at kept
    rw [← holds channel setting rfl]
    rcases serves.cases.2 with ⟨kind, argument, sets, rfl⟩ | ⟨_, same⟩
    · have foreign : ¬(setting = kind ∧ (channel = exchange.channel ∨
          fastcomGetCardType2 card = .pci ∧ setting = .echoCancel)) := by
        rintro ⟨rfl, owned⟩
        have owner := Setting.owner_eq_iff.mpr ⟨rfl, owned.imp_left Eq.symm⟩
        rw [owner] at sets
        exact kept _ sets
      have notPin : ¬(fastcomGetCardType2 card = .pci ∧ kind = .rs485 ∧
          exchange.channel = 4 ∧ setting = .echoCancel) := by
        rintro ⟨pci, _, fifth, _⟩
        have inRange := serves.1
        have ports := few pci
        omega
      exact (if_neg foreign).trans (if_neg notPin)
    · rw [same]

end CardSettings

/-! ## Reading a card -/

def Setting.getter : Setting → Command
  | .rs485 => .getRs485
  | .echoCancel => .getEchoCancel
  | .termination => .getTermination
  | .isochronous => .getIsochronous
  | .externalTransmit => .getExternalTransmit
  | .frameLength => .getFrameLength
  | .txTrigger => .getTxTrigger
  | .rxTrigger => .getRxTrigger
  | .sampleRate => .getSampleRate

section Boards

variable {fsccEnableAsync : Bool} {card : Card} {state : CardState}
  (board : boardNumPorts card.pciDev.device = some card.numPorts)
include board

theorem reflects_sameRange {settings : CardSettings}
    (reflects : Reflects card state settings) {channel : Nat}
    (inRange : channel < card.numPorts) (value : BitVec 32) (setting : Setting) :
    InOperatingRange (fastcomGetCardType2 card) (settings.firmware channel) value
        setting ↔
      InOperatingRange (fastcomGetCardType2 card)
        (state.firmwareRevision channel).toNat value setting := by
  rcases boardNumPorts_range card board with ⟨_, _, fsccPorts⟩
  by_cases exar : fastcomGetCardType2 card = .fscc
  · rw [Reflects, exar] at reflects
    rw [(reflects channel (fsccPorts exar ▸ inRange)).firmware]
  · exact inOperatingRange_firmware exar _ _ value setting

theorem reflects_sets {settings : CardSettings} (reflects : Reflects card state settings)
    {exchange : Exchange} (inRange : exchange.channel < card.numPorts) :
    exchange.sets card settings.firmware =
      exchange.sets card fun channel => (state.firmwareRevision channel).toNat := by
  unfold Exchange.sets
  cases exchange.request.operation with
  | none => rfl
  | some operation =>
      cases operation with
      | set setting value => simp only [reflects_sameRange board reflects inRange]
      | _ => rfl

omit board in
theorem supported_of_lastSet {firmware : Nat → Nat} {history : List Exchange}
    {channel : Nat} {setting : Setting} {value : BitVec 32}
    (isLast : lastWrite (Exchange.sets card firmware) history
      (setting.owner (fastcomGetCardType2 card) channel) = some value) :
    setting.SupportedBy (fastcomGetCardType2 card) (firmware channel) := by
  refine lastWrite_satisfies (fun key _ => ∀ channel (setting : Setting),
    key = setting.owner (fastcomGetCardType2 card) channel →
      setting.SupportedBy (fastcomGetCardType2 card) (firmware channel))
    ?_ isLast channel setting rfl
  intro exchange key value sets channel setting isOwner
  unfold Exchange.sets at sets
  split at sets
  case h_2 => cases sets
  case h_1 kind argument _ =>
    split at sets
    case isFalse => cases sets
    case isTrue inRange =>
      obtain ⟨rfl, _⟩ := Prod.mk.inj (Option.some.inj sets)
      rcases Setting.owner_eq_iff.mp isOwner with ⟨rfl, rfl | ⟨pci, rfl⟩⟩
      · exact supported_of_inOperatingRange inRange
      · rw [pci]
        exact (by decide : CardType.pci ≠ .unknown)

/-- Whichever interface a setting was last set through, both report it: the ioctl
in the first four bytes of the caller's memory, and the attribute in decimal. -/
theorem reachable_reads_lastSet
    (few : fastcomGetCardType2 card = .pci → card.numPorts ≤ 4)
    {history : List Exchange}
    (reachable : Run (Initialised fsccEnableAsync card) (Serves card) state history)
    {channel : Nat} (inRange : channel < card.numPorts) {setting : Setting}
    {value : BitVec 32}
    (isLast : lastWrite
      (Exchange.sets card fun channel => (state.firmwareRevision channel).toNat)
      history (setting.owner (fastcomGetCardType2 card) channel) = some value) :
    (∀ (arg : BitVec 64) (user : UserSpace) (allocated : Bool), 4 ≤ user.copied →
      ∃ memory next,
        card.machine.run
          (serialfcIoctl ⟨card, channel⟩ arg user allocated setting.getter) state =
            (some (0, memory), next) ∧
        ∀ index, memory index =
          if index < 4 then objectByte value.toNat index else user.memory index) ∧
      ∃ shown next, (Attribute.setting setting).showHandler ⟨card, channel⟩ =
          some shown ∧
        card.machine.run shown state =
          (some (printInt value.toInt ++ ['\n']), next) := by
  rcases (card_simulates_requests board).run reachable with ⟨settings, reflects, run⟩
  have served : ∀ exchange ∈ history, exchange.channel < card.numPorts :=
    reachable.forall_events fun _ _ _ serves => serves.1
  have sameSets : lastWrite (Exchange.sets card settings.firmware) history
      (setting.owner (fastcomGetCardType2 card) channel) = some value := by
    rw [← isLast]
    exact lastWrite_congr
      (fun exchange member => reflects_sets board reflects (served exchange member)) _
  have held : settings.value channel setting = value :=
    CardSettings.value_lastSet few run sameSets
  have answer : settings.answer (fastcomGetCardType2 card) channel (.get setting 0) =
      some (.value 0 value, settings) := by
    simp only [CardSettings.answer, CardSettings.get,
      if_pos (supported_of_lastSet sameSets), held]
  have comes := comesTo_program board reflects inRange (.get setting 0)
  rw [answer] at comes
  rcases comes with ⟨next, runGet, _⟩
  constructor
  · intro arg user allocated copied
    have called : setting.getter.operation arg user allocated =
        some (.get setting 0) := by
      cases setting <;> rfl
    refine ⟨(user.copyToUser 4 value.toNat).2, next, ?_, ?_⟩
    · simp only [serialfcIoctl_eq, called, Machine.run_map, Card.machine, runGet]
      rfl
    · intro index
      by_cases low : index < 4
      · simp [UserSpace.copyToUser, low, Nat.lt_of_lt_of_le low copied]
      · simp [UserSpace.copyToUser, low]
  · refine ⟨_, next, showHandler_eq _ _, ?_⟩
    simp only [Machine.run_map, Card.machine, runGet]
    rfl

end Boards

/-- A trigger level that was written to the attribute of an FSCC port in
hexadecimal is what the ioctl hands back, and shown in decimal. -/
theorem reachable_reads_lastSet_txTrigger :
    let port : Port := ⟨Card.ofDevice fsccId 2, 1⟩
    ∃ (state : CardState) (memory : UserMemory),
      Run (Initialised false port.card) (Serves port.card) state
        [⟨1, .write (.setting .txTrigger) ['2', '0', '\n'], .count 3⟩] ∧
      (port.card.machine.run
        (serialfcIoctl port 0 ⟨fun _ => 0xff, 4⟩ true .getTxTrigger) state).1 =
          some (0, memory) ∧
      memory 0 = 0x20 ∧ memory 1 = 0 ∧
      (port.card.machine.run (txTriggerShow port) state).1 =
        some ['3', '2', '\n'] := by
  intro port
  have board : boardNumPorts port.card.pciDev.device = some port.card.numPorts := by
    decide
  have isFscc : fastcomGetCardType port = .fscc := rfl
  let written : BitVec 32 := (simpleStrtoul ['2', '0', '\n'] 16).setWidth 32
  have level : written = 0x20 := by
    decide
  rcases exists_initialised_fscc isFscc rfl false with ⟨started, initialised⟩
  have sets := run_set_of_accepts isFscc started written .txTrigger
    (by simp [FsccView.Accepts, level])
  rw [← machine_of_cardType isFscc] at sets
  let next := started.applyFscc port written .txTrigger
  have stores := @Attribute.run_storeHandler_setting port .txTrigger started next 0
    ['2', '0', '\n'] sets
  have reachable : Run (Initialised false port.card) (Serves port.card) next
      [⟨1, .write (.setting .txTrigger) ['2', '0', '\n'], .count 3⟩] := by
    refine .step (.start initialised) ⟨by decide, _, rfl, ?_⟩
    rw [Machine.run_map]
    exact congrArg (fun result => (result.1.map Response.count, result.2)) stores
  have inRange : ∀ firmware, InOperatingRange .fscc firmware written .txTrigger := by
    intro firmware
    rw [level]
    exact (by decide : 0x20 ≤ 127)
  have isLast : lastWrite (Exchange.sets port.card
      fun channel => (next.firmwareRevision channel).toNat)
      [⟨1, .write (.setting .txTrigger) ['2', '0', '\n'], .count 3⟩]
      (Setting.txTrigger.owner .fscc 1) = some 0x20 := by
    rw [← level]
    have sets : Exchange.sets port.card
        (fun channel => (next.firmwareRevision channel).toNat)
        ⟨1, .write (.setting .txTrigger) ['2', '0', '\n'], .count 3⟩ =
          some (Setting.txTrigger.owner .fscc 1, written) := by
      have accepted := inRange (next.firmwareRevision 1).toNat
      rw [Exchange.sets]
      exact if_pos accepted
    exact lastWrite_cons_of_writes sets []
  rcases reachable_reads_lastSet board (fun pci => by cases pci) reachable
    (show 1 < port.card.numPorts by decide) isLast with ⟨ioctl, shown, _, same, run⟩
  rcases ioctl 0 ⟨fun _ => 0xff, 4⟩ true (Nat.le_refl 4) with ⟨memory, _, runGet, bytes⟩
  obtain rfl : txTriggerShow port = shown := Option.some.inj same
  have shows : printInt (0x20#32).toInt ++ ['\n'] = ['3', '2', '\n'] := by
    decide
  exact ⟨next, memory, reachable, congrArg Prod.fst runGet,
    (bytes 0).trans (by decide), (bytes 1).trans (by decide),
    (congrArg Prod.fst run).trans (congrArg some shows)⟩

end SerialFc
