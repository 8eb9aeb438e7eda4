import SerialFc.Abstract.Families
import SerialFc.Foundation.Simulation

/-! # Runs of a card are runs of its settings

From the initialisation of its ports on, a card of any board answers every call
as its settings do.
-/

namespace SerialFc

/-! ## The settings of a card -/

def Reflects (card : Card) (state : CardState) (settings : CardSettings) : Prop :=
  match fastcomGetCardType2 card with
  | .pci => PciReflects card.numPorts state settings
  | .pcie => PcieReflects card.numPorts state settings
  | .fscc => FsccReflects state settings
  | .unknown => False

def CardState.reported (type : CardType) (state : CardState) (channel : Nat)
    (before : BitVec 32) (setting : Setting) : Int × BitVec 32 :=
  match type with
  | .pci => state.getPci channel before setting
  | .pcie => (state.pcieView channel).get before setting
  | .fscc => (state.fsccView channel).get before setting
  | .unknown => (-eprotonosupport, before)

def CardState.settings (type : CardType) (state : CardState) : CardSettings where
  firmware channel := (state.firmwareRevision channel).toNat
  value channel setting := (state.reported type channel 0 setting).2
  divisor channel := (latchedDivisor (state.uart channel).banked).toNat

variable {fsccEnableAsync : Bool} {card : Card} {state : CardState}

/-! ## Initialised cards -/

def ReportDefaults (card : Card) (state : CardState) : Prop :=
  ∀ channel < card.numPorts, ∀ setting value, (setting, value) ∈ defaultSettings →
    setting.SupportedBy (fastcomGetCardType2 card)
      (state.firmwareRevision channel).toNat →
    ∀ before, state.reported (fastcomGetCardType2 card) channel before setting =
      (0, value)

theorem ReportDefaults.fresh (reports : ReportDefaults card state) :
    (state.settings (fastcomGetCardType2 card)).Fresh card := by
  intro channel inRange default member supported
  have reported := reports channel inRange default.1 default.2 member supported 0
  exact congrArg Prod.snd reported

/-- Setting one port's values keeps what the others report, but for echo
cancel. -/
theorem getPci_settleAll_of_ne {port : Port} {other : Nat}
    (different : other ≠ port.channel) {kind : Setting}
    (notEcho : kind ≠ .echoCancel) (values : List (Setting × BitVec 32))
    (state : CardState) (before : BitVec 32) :
    (values.foldl (fun state default => state.settlePci port default.2 default.1)
        state).getPci other before kind =
      state.getPci other before kind := by
  induction values generalizing state with
  | nil => rfl
  | cons first later induction =>
      rw [List.foldl_cons, induction, CardState.settlePci]
      split
      · exact getPci_applyPci_of_ne different notEcho before
      · rfl

theorem initialisePorts_pci (pci : fastcomGetCardType2 card = .pci)
    {channels : List Nat} (inRange : ∀ channel ∈ channels, channel < card.numPorts)
    {before state : CardState}
    (run : card.machine.run (initialisePorts fsccEnableAsync card channels) before =
      (some (), state))
    {channel : Nat} (member : channel ∈ channels) {setting : Setting}
    {value : BitVec 32} (isDefault : (setting, value) ∈ defaultSettings)
    {firmware : Nat} (supported : setting.SupportedBy .pci firmware) :
    ∀ before, state.getPci channel before setting = (0, value) := by
  have accepted := (pciAccepts_iff _ _ _).mpr
    (default_inOperatingRange isDefault supported)
  refine initialisePorts_establishes
    (fun channel state => ∀ before,
      state.getPci channel before setting = (0, value)) ?_ ?_ inRange run
      (inRange channel member) (.inl member)
  · intro channel _ state next run before
    have isPci : fastcomGetCardType ⟨card, channel⟩ = .pci := pci
    rcases run_serialfcPortNew_pci isPci fsccEnableAsync state with
      ⟨armed, _, _, _, _, settled⟩
    rw [Card.machine, pci, settled] at run
    rcases Prod.mk.inj run with ⟨_, rfl⟩
    have answer := @getPci_settleAll armed ⟨card, channel⟩ setting defaultSettings
      (by decide) value isDefault accepted before
    rwa [denote_default isDefault] at answer
  · intro channel _ other _ different state next run holding before
    have isPci : fastcomGetCardType ⟨card, channel⟩ = .pci := pci
    rcases run_serialfcPortNew_pci isPci fsccEnableAsync state with
      ⟨armed, _, _, fields, uarts, settled⟩
    rw [Card.machine, pci, settled] at run
    rcases Prod.mk.inj run with ⟨_, rfl⟩
    by_cases isEcho : setting = .echoCancel
    · subst isEcho
      have answer := @getPci_settleAll armed ⟨card, channel⟩ .echoCancel
        defaultSettings (by decide) value isDefault accepted before
      rw [denote_default isDefault] at answer
      exact answer
    · rw [getPci_settleAll_of_ne different isEcho, ← holding before]
      cases setting with
      | echoCancel => exact absurd rfl isEcho
      | _ => simp only [CardState.getPci, fields, uarts other different]

theorem reportDefaults_pci (pci : fastcomGetCardType2 card = .pci)
    (initialised : Initialised fsccEnableAsync card state) :
    ReportDefaults card state := by
  rcases initialised with ⟨before, run⟩
  intro channel inRange setting value isDefault supported
  rw [pci] at supported ⊢
  exact initialisePorts_pci pci (fun _ => List.mem_range.mp) run
    (List.mem_range.mpr inRange) isDefault supported

theorem reportDefaults_pcie (pcie : fastcomGetCardType2 card = .pcie)
    (ports : card.numPorts ≤ 8) (initialised : Initialised fsccEnableAsync card state) :
    ReportDefaults card state := by
  intro channel inRange setting value isDefault supported before
  rw [pcie] at supported ⊢
  rcases initialised_pcie pcie ports initialised inRange with ⟨view, isView⟩
  have accepted := (pcieAccepts_iff _ _ _).mpr
    (default_inOperatingRange isDefault supported)
  rw [CardState.reported, isView]
  exact view.get_initialised isDefault accepted before

theorem reportDefaults_fscc (fscc : fastcomGetCardType2 card = .fscc)
    (twoPorts : card.numPorts = 2) (initialised : Initialised fsccEnableAsync card state) :
    ReportDefaults card state := by
  intro channel inRange setting value isDefault supported before
  rw [fscc] at supported ⊢
  rcases initialised_fscc fscc twoPorts initialised (twoPorts ▸ inRange) with
    ⟨view, isView⟩
  have firmware : state.firmwareRevision channel = view.firmwareRevision := by
    rw [← view.initialised_rest.2, ← isView]
    rfl
  rw [firmware] at supported
  rw [CardState.reported, isView]
  exact view.get_initialised isDefault supported before

/-- What an initialised FSCC card reports does not depend on what the answers are
written over: its ports are not in an unknown isochronous mode. -/
theorem viewReports_settings_fscc (fscc : fastcomGetCardType2 card = .fscc)
    (defaults : ReportDefaults card state) {channel : Nat}
    (inRange : channel < card.numPorts) :
    ViewReports FsccView.model .fscc (state.fsccView channel) (state.settings .fscc)
      channel := by
  intro before setting
  cases setting with
  | isochronous =>
      have reported := defaults channel inRange .isochronous defaultIsochronous
        (by simp [defaultSettings]) fscc
      rw [fscc] at reported
      have answer : (state.settings .fscc).value channel .isochronous =
          defaultIsochronous := congrArg Prod.snd (reported 0)
      rw [CardSettings.get, answer]
      exact reported before
  | frameLength =>
      by_cases old : state.firmwareRevision channel < 0x20
      · have unsupported : ¬Setting.frameLength.SupportedBy .fscc
            (state.firmwareRevision channel).toNat :=
          fun both => absurd both.2 (Nat.not_le_of_lt (BitVec.lt_def.mp old))
        have answer : (state.fsccView channel).get before .frameLength =
          (-eprotonosupport, before) := if_pos old
        rw [CardSettings.get, CardState.settings, if_neg unsupported]
        exact answer
      · have supported : Setting.frameLength.SupportedBy .fscc
            (state.firmwareRevision channel).toNat :=
          ⟨rfl, Nat.le_of_not_lt fun below => old (BitVec.lt_def.mpr below)⟩
        have answer : ∀ before, (state.fsccView channel).get before .frameLength =
          (0, ((state.fsccView channel).indexed flrOffset).setWidth 32 + 1) :=
          fun before => if_neg old
        rw [CardSettings.get, CardState.settings, if_pos supported]
        simp only [CardState.reported, answer 0]
        exact answer before
  | _ =>
      simp [CardState.settings, CardState.reported, CardSettings.get,
        Setting.SupportedBy, FsccView.model, FsccView.get]

section Boards

variable (board : boardNumPorts card.pciDev.device = some card.numPorts)
include board

theorem reflects_initialised (initialised : Initialised fsccEnableAsync card state) :
    ∃ settings, settings.Fresh card ∧ Reflects card state settings := by
  rcases boardNumPorts_range card board with ⟨_, pciePorts, fsccPorts⟩
  cases type : fastcomGetCardType2 card with
  | pci =>
      refine ⟨_, (reportDefaults_pci type initialised).fresh, ?_⟩
      rw [Reflects, type]
      intro channel inRange before setting
      cases setting <;> simp [CardState.settings, CardState.reported,
        CardSettings.get, Setting.SupportedBy, CardState.getPci]
  | pcie =>
      have ports := pciePorts type
      refine ⟨_, (reportDefaults_pcie type ports initialised).fresh, ?_⟩
      rw [Reflects, type]
      intro channel inRange
      refine ⟨initialised_pcieShadowed type ports state initialised channel inRange,
        ?_, rfl⟩
      intro before setting
      cases setting <;> simp [CardState.settings, CardState.reported,
        CardSettings.get, Setting.SupportedBy, PcieView.model, PcieView.get]
  | fscc =>
      have twoPorts := fsccPorts type
      have defaults := reportDefaults_fscc type twoPorts initialised
      refine ⟨_, defaults.fresh, ?_⟩
      rw [Reflects, type]
      intro channel small
      exact ⟨initialised_fsccSynced type twoPorts state initialised channel small,
        rfl, viewReports_settings_fscc type defaults (twoPorts ▸ small)⟩
  | unknown => exact absurd type (fastcomGetCardType2_known board)

/-! ## Calls -/

theorem comesTo_program {settings : CardSettings}
    (reflects : Reflects card state settings) {channel : Nat}
    (inRange : channel < card.numPorts) (operation : Operation) :
    ComesTo (fastcomGetCardType2 card) (Reflects card)
      (operation.program ⟨card, channel⟩) state
      (settings.answer (fastcomGetCardType2 card) channel operation) := by
  rcases boardNumPorts_range card board with ⟨_, pciePorts, fsccPorts⟩
  cases type : fastcomGetCardType2 card with
  | pci =>
      have isPci : fastcomGetCardType ⟨card, channel⟩ = .pci := type
      have means : Reflects card = PciReflects card.numPorts := by
        funext state settings
        rw [Reflects, type]
      rw [means] at reflects ⊢
      exact comesTo_pci isPci reflects inRange operation
  | pcie =>
      have isPcie : fastcomGetCardType ⟨card, channel⟩ = .pcie := type
      have means : Reflects card = PcieReflects card.numPorts := by
        funext state settings
        rw [Reflects, type]
      rw [means] at reflects ⊢
      exact comesTo_pcie isPcie (pciePorts type) reflects inRange operation
  | fscc =>
      have isFscc : fastcomGetCardType ⟨card, channel⟩ = .fscc := type
      have means : Reflects card = FsccReflects := by
        funext state settings
        rw [Reflects, type]
      rw [means] at reflects ⊢
      exact comesTo_fscc isFscc reflects (fsccPorts type ▸ inRange) operation
  | unknown => exact absurd type (fastcomGetCardType2_known board)

theorem operates_answers {settings : CardSettings} {event : Event} {next : CardState}
    (reflects : Reflects card state settings) (operates : Operates card state event next) :
    ∃ after, settings.Answers card event after ∧ Reflects card next after := by
  rcases event with ⟨channel, operation, reply⟩
  rcases operates with ⟨inRange, run⟩
  have comes := comesTo_program board reflects inRange operation
  rw [Card.machine] at run
  cases answered : settings.answer (fastcomGetCardType2 card) channel operation with
  | none =>
      rw [answered] at comes
      have faults : (some reply : Option Reply) = none :=
        (congrArg Prod.fst run).symm.trans comes
      cases faults
  | some answer =>
      rcases answer with ⟨expected, after⟩
      rw [answered] at comes
      rcases comes with ⟨actual, actualRun, reflected⟩
      rcases Prod.mk.inj (actualRun.symm.trans run) with ⟨sameReply, rfl⟩
      obtain rfl : expected = reply := Option.some.inj sameReply
      exact ⟨after, ⟨inRange, answered⟩, reflected⟩

theorem card_simulates :
    Simulates (Initialised fsccEnableAsync card) (Operates card)
      (CardSettings.Fresh card) (CardSettings.Answers card) (Reflects card) :=
  ⟨fun _ initialised => reflects_initialised board initialised,
    fun _ _ _ _ reflects operates => operates_answers board reflects operates⟩

/-- Along every run of a card the replies so far are those of its settings, and
so is the reply to whatever is called next. A call does not return exactly if
the settings have no answer. -/
theorem reachable_answers {history : List Event}
    (reachable : Reachable fsccEnableAsync card state history) :
    ∃ settings : CardSettings,
      Run (CardSettings.Fresh card) (CardSettings.Answers card) settings history ∧
      ∀ channel < card.numPorts, ∀ operation : Operation,
        (card.machine.run (operation.program ⟨card, channel⟩) state).1 =
          (settings.answer (fastcomGetCardType2 card) channel operation).map
            Prod.fst := by
  rcases (card_simulates board).run reachable with ⟨settings, reflects, run⟩
  refine ⟨settings, run, ?_⟩
  intro channel inRange operation
  have comes := comesTo_program board reflects inRange operation
  cases answered : settings.answer (fastcomGetCardType2 card) channel operation with
  | none =>
      rw [answered] at comes
      exact comes
  | some answer =>
      rw [answered] at comes
      rcases comes with ⟨next, actualRun, _⟩
      exact congrArg Prod.fst actualRun

end Boards

/-- On the board with eight ports, disabling RS485 on the fifth turns echo cancel
on, which the first port then reports. -/
theorem reachable_answers_fifthPort :
    let card := Card.ofDevice fc232_8Pci335Id 8
    let history : List Event := [⟨4, .set .rs485 0, .status 0⟩]
    ∃ (state : CardState) (settings : CardSettings),
      Reachable false card state history ∧
      Run (CardSettings.Fresh card) (CardSettings.Answers card) settings history ∧
      (card.machine.run ((Operation.get .echoCancel 0).program ⟨card, 0⟩) state).1 =
        some (.value 0 1) := by
  intro card history
  have board : boardNumPorts card.pciDev.device = some card.numPorts := by
    decide
  have isPci : fastcomGetCardType ⟨card, 4⟩ = .pci := rfl
  rcases exists_initialised_pci isPci false with ⟨started, initialised⟩
  have sets := run_set_pci_of_accepts isPci started 0 .rs485 trivial
  have operates : Operates card started ⟨4, .set .rs485 0, .status 0⟩
      (started.applyPci ⟨card, 4⟩ 0 .rs485) := by
    refine ⟨by decide, ?_⟩
    rw [Operation.program, bind_pure_comp, Machine.run_map]
    exact congrArg (fun result => (result.1.map Reply.status, result.2)) sets
  have reachable : Reachable false card (started.applyPci ⟨card, 4⟩ 0 .rs485) history :=
    .step (.start initialised) operates
  rcases reachable_answers board reachable with ⟨settings, run, answers⟩
  refine ⟨_, settings, reachable, run, ?_⟩
  rw [answers 0 (by decide)]
  change Run _ _ settings [_] at run
  cases run with
  | step first answered =>
      have changed := congrArg (Option.map Prod.snd) answered.2
      obtain rfl : CardSettings.set .pci _ 4 0 .rs485 = settings :=
        Option.some.inj changed
      rfl

end SerialFc
