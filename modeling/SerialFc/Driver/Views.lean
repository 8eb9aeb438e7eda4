import SerialFc.Driver.Operations

/-! # Independent settings

What callers of the driver rely on: a setting reads back as it was last set,
whatever is done to other settings and other ports. `SettingsModel` states it
for one port and one call; `getLastSet` carries it through whole runs of any
card whose calls follow a model.
-/

namespace SerialFc

structure SettingsModel (View : Type) where
  /-- The arguments that are taken for a setting. -/
  Accepts : View → BitVec 32 → Setting → Prop
  decidableAccepts : ∀ view value setting,
    Decidable (Accepts view value setting)
  /-- The view after an accepted set. -/
  set : View → BitVec 32 → Setting → View
  /-- What a getter answers, given the old contents of its output. -/
  get : View → BitVec 32 → Setting → Int × BitVec 32
  getSetSame : ∀ view value before setting, Accepts view value setting →
    get (set view value setting) before setting = (0, setting.denote value)
  getSetOfNe : ∀ view value before setting other, setting ≠ other →
    get (set view value setting) before other = get view before other

namespace SettingsModel

variable {View : Type} (model : SettingsModel View)
  (view : CardState → Nat → View)

/-- A completed call follows the model: it sets what it returned zero for on
its own port, or shows nowhere. -/
def Follows (state : CardState) (event : Event) (next : CardState) : Prop :=
  (∃ setting value,
      event.writes =
        some ((event.channel, setting), setting.denote value) ∧
      model.Accepts (view state event.channel) value setting ∧
      view next event.channel =
        model.set (view state event.channel) value setting ∧
      ∀ other ≠ event.channel, view next other = view state other) ∨
    (event.writes = none ∧ ∀ channel, view next channel = view state channel)

variable {model view} {state next : CardState} {event : Event}

theorem Follows.keeps {holds : View → Prop}
    (kept : ∀ view value setting, model.Accepts view value setting →
      holds view → holds (model.set view value setting))
    (follows : model.Follows view state event next) {bound : Nat}
    (before : ∀ channel < bound, holds (view state channel)) :
    ∀ channel < bound, holds (view next channel) := by
  intro channel small
  rcases follows with ⟨setting, value, _, accepted, own, others⟩ | ⟨_, same⟩
  · by_cases isOwn : channel = event.channel
    · subst isOwn
      rw [own]
      exact kept _ _ _ accepted (before _ small)
    · rw [others channel isOwn]
      exact before channel small
  · rw [same channel]
    exact before channel small

theorem Follows.get_written (follows : model.Follows view state event next)
    {channel : Nat} {setting : Setting} {value : BitVec 32}
    (written : event.writes = some ((channel, setting), value))
    (before : BitVec 32) :
    model.get (view next channel) before setting = (0, value) := by
  rcases follows with ⟨own, argument, writes, accepted, changed, _⟩ | ⟨writes, _⟩
  · rw [writes] at written
    obtain ⟨⟨rfl, rfl⟩, rfl⟩ :
        (event.channel = channel ∧ own = setting) ∧ _ = value := by
      simpa using written
    rw [changed]
    exact model.getSetSame _ _ _ _ accepted
  · rw [writes] at written
    cases written

theorem Follows.get_not_written (follows : model.Follows view state event next)
    {channel : Nat} {setting : Setting}
    (notWritten : ∀ value, event.writes ≠ some ((channel, setting), value))
    (before : BitVec 32) :
    model.get (view next channel) before setting =
      model.get (view state channel) before setting := by
  rcases follows with ⟨own, argument, writes, _, changed, others⟩ | ⟨_, same⟩
  · by_cases isOwn : channel = event.channel
    · subst isOwn
      have different : own ≠ setting := by
        rintro rfl
        exact notWritten _ writes
      rw [changed]
      exact model.getSetOfNe _ _ _ _ _ different
    · rw [others channel isOwn]
  · rw [same channel]

/-- Along every run that follows the model, a setting reads back as last set
on that very port. -/
theorem getLastSet {fsccEnableAsync : Bool} {card : Card}
    (valid : CardState → Prop)
    (startValid : ∀ state, Initialised fsccEnableAsync card state → valid state)
    (stepValid : ∀ state event next, valid state →
      Operates card state event next → valid next)
    (follows : ∀ state event next, valid state →
      Operates card state event next → model.Follows view state event next)
    {state : CardState} {history : List Event}
    (reachable : Reachable fsccEnableAsync card state history)
    {channel : Nat} {setting : Setting} {value : BitVec 32}
    (isLast : lastSet history channel setting = some value)
    (before : BitVec 32) :
    model.get (view state channel) before setting = (0, value) := by
  have isRecorded : recorded Event.writes (fun _ => none) history
      (channel, setting) = some value := by
    simpa [recorded, lastSet] using isLast
  refine Run.tracks valid
    (fun state key value =>
      model.get (view state key.1) before key.2 = (0, value))
    reachable startValid (fun _ _ _ _ isNone => by cases isNone)
    stepValid ?_ ?_ isRecorded
  · intro state event next key value isValid operates written
    exact (follows _ _ _ isValid operates).get_written written before
  · intro state event next key value isValid operates notWritten holding
    rw [(follows _ _ _ isValid operates).get_not_written notWritten before]
    exact holding

/-! ## Defaults -/

instance (model : SettingsModel View) (view : View) (value : BitVec 32)
    (setting : Setting) : Decidable (model.Accepts view value setting) :=
  model.decidableAccepts view value setting

/-- The view after a set, accepted or not. -/
def settle (model : SettingsModel View) (view : View) (value : BitVec 32)
    (setting : Setting) : View :=
  if model.Accepts view value setting then model.set view value setting
  else view

def settleAll (model : SettingsModel View) (view : View) :
    List (Setting × BitVec 32) → View
  | [] => view
  | (setting, value) :: later =>
      model.settleAll (model.settle view value setting) later

theorem settleAll_append (view : View)
    (earlier later : List (Setting × BitVec 32)) :
    model.settleAll view (earlier ++ later) =
      model.settleAll (model.settleAll view earlier) later := by
  induction earlier generalizing view with
  | nil => rfl
  | cons first earlier induction => exact induction _

theorem settleAll_keeps {holds : View → Prop}
    (kept : ∀ view value setting, model.Accepts view value setting →
      holds view → holds (model.set view value setting))
    (settings : List (Setting × BitVec 32)) {view : View}
    (before : holds view) : holds (model.settleAll view settings) := by
  induction settings generalizing view with
  | nil => exact before
  | cons first later induction =>
      apply induction
      unfold settle
      split
      case isTrue accepted => exact kept _ _ _ accepted before
      case isFalse => exact before

theorem get_settleAll_of_not_mem {settings : List (Setting × BitVec 32)}
    {setting : Setting} (absent : setting ∉ settings.map Prod.fst) (view : View)
    (before : BitVec 32) :
    model.get (model.settleAll view settings) before setting =
      model.get view before setting := by
  induction settings generalizing view with
  | nil => rfl
  | cons first later induction =>
      rw [List.map_cons, List.mem_cons, not_or] at absent
      rw [settleAll, induction absent.2, settle]
      split
      · exact model.getSetOfNe _ _ _ _ _ (Ne.symm absent.1)
      · rfl

/-- Each setting of a list without repetitions reads back if it is accepted
whatever was set before it. -/
theorem get_settleAll {holds : View → Prop}
    (kept : ∀ view value setting, model.Accepts view value setting →
      holds view → holds (model.set view value setting))
    {settings : List (Setting × BitVec 32)}
    (distinct : (settings.map Prod.fst).Nodup) {setting : Setting}
    {value : BitVec 32} (member : (setting, value) ∈ settings)
    (accepted : ∀ view, holds view → model.Accepts view value setting)
    {view : View} (initially : holds view) (before : BitVec 32) :
    model.get (model.settleAll view settings) before setting =
      (0, setting.denote value) := by
  induction settings generalizing view with
  | nil => cases member
  | cons first later induction =>
      rw [List.map_cons, List.nodup_cons] at distinct
      rw [settleAll]
      rcases List.mem_cons.mp member with rfl | isLater
      · rw [get_settleAll_of_not_mem distinct.1, settle,
          if_pos (accepted view initially)]
        exact model.getSetSame _ _ _ _ (accepted view initially)
      · apply induction distinct.2 isLater
        exact @settleAll_keeps _ model _ kept [first] view initially

end SettingsModel

/-- The defaults in the order in which `serialfc_port_new` sets them. -/
def defaultSettings : List (Setting × BitVec 32) :=
  [(.rs485, defaultRs485), (.sampleRate, defaultSampleRate),
    (.txTrigger, defaultTxTriggerLevel), (.rxTrigger, defaultRxTriggerLevel),
    (.termination, defaultTermination), (.echoCancel, defaultEchoCancel),
    (.isochronous, defaultIsochronous), (.frameLength, defaultFrameLength)]

def setAll (port : Port) : List (Setting × BitVec 32) → Driver Unit
  | [] => pure ()
  | (setting, value) :: later => do
      let _ ← setting.set port value
      setAll port later

theorem setDefaults_eq (port : Port) :
    setDefaults port = setAll port defaultSettings := by
  simp [setDefaults, setAll, defaultSettings, Setting.set]

theorem run_setDefaults {View : Type} {type : CardType} {port : Port}
    {model : SettingsModel View} {view : CardState → Nat → View}
    (settles : ∀ state value setting, ∃ status next,
      (cardMachine type).run (setting.set port value) state =
          (some status, next) ∧
        view next port.channel =
          model.settle (view state port.channel) value setting ∧
        ∀ other ≠ port.channel, view next other = view state other)
    (state : CardState) :
    ∃ next, (cardMachine type).run (setDefaults port) state = (some (), next) ∧
      view next port.channel =
        model.settleAll (view state port.channel) defaultSettings ∧
      ∀ other ≠ port.channel, view next other = view state other := by
  rw [setDefaults_eq]
  generalize defaultSettings = settings
  induction settings generalizing state with
  | nil => exact ⟨state, rfl, rfl, fun _ _ => rfl⟩
  | cons first later induction =>
      rcases first with ⟨setting, value⟩
      rcases settles state value setting with
        ⟨status, after, run, own, others⟩
      rcases induction after with ⟨next, runLater, ownLater, othersLater⟩
      refine ⟨next, ?_, ?_, ?_⟩
      · rw [setAll, Machine.run_bind, run]
        exact runLater
      · rw [ownLater, own]
        rfl
      · intro other different
        rw [othersLater other different, others other different]

end SerialFc
