import SerialFc.Fscc.ClockBits
import SerialFc.Fscc.Window

/-! # Runs of an FSCC card

One step of a run changes the view of one port at most, in the way that
`FsccView.set` says. Everything that holds along runs follows from that.
-/

namespace SerialFc

/-! ## One call -/

section Calls

variable {port : Port} (fscc : fastcomGetCardType port = .fscc)
variable (state : CardState)
include fscc

theorem run_enableAsyncMode (small : port.channel < 2) :
    ∃ next, (cardMachine .fscc).run (fsccEnableAsyncMode port) state =
        (some 0, next) ∧
      ∀ other, next.fsccView other = state.fsccView other := by
  by_cases off : state.fcr &&& (0x01000000#32 <<< port.channel) = 0#32
  · refine ⟨_, ?_, fun other => fsccView_switchAsync state small true other⟩
    simp [fsccEnableAsyncMode, fscc, Machine.run_bind, switchBits, off]
  · refine ⟨state, ?_, fun other => rfl⟩
    simp [fsccEnableAsyncMode, fscc, Machine.run_bind, off]

theorem run_disableAsyncMode (small : port.channel < 2) :
    ∃ next, (cardMachine .fscc).run (fsccDisableAsyncMode port) state =
        (some 0, next) ∧
      ∀ other, next.fsccView other = state.fsccView other := by
  refine ⟨_, ?_, fun other => fsccView_switchAsync state small false other⟩
  simp [fsccDisableAsyncMode, fscc, Machine.run_bind, switchBits]

theorem run_get_of_synced (synced : (state.fsccView port.channel).AcrSynced)
    (before : BitVec 32) (setting : Setting) :
    ∃ index, (cardMachine .fscc).run (setting.get port before) state =
      (some ((state.fsccView port.channel).get before setting),
        state.setIndexed port.channel index
          (state.uart port.channel).indexed) := by
  rcases run_get_fscc fscc state before setting with
    ⟨next, run, unchanged | ⟨_, refreshed⟩⟩
  · refine ⟨(state.uart port.channel).spr, ?_⟩
    rw [run, unchanged]
    simp [CardState.setIndexed]
  · refine ⟨acrOffset, ?_⟩
    rw [run, refreshed, setIndexed_acr_of_synced state port synced]

/-- A call runs to its end. It either sets what its argument asks for on its
own port, or shows in no port's view. -/
theorem run_program_fscc (small : port.channel < 2)
    (synced : (state.fsccView port.channel).AcrSynced) (operation : Operation) :
    ∃ reply next, (cardMachine .fscc).run (operation.program port) state =
        (some reply, next) ∧
      ((∃ setting value, operation = .set setting value ∧ reply = .status 0 ∧
          (state.fsccView port.channel).Accepts value setting ∧
          next = state.applyFscc port value setting) ∨
        ((Event.mk port.channel operation reply).writes = none ∧
          ∀ other, next.fsccView other = state.fsccView other)) := by
  cases operation with
  | set setting value =>
      by_cases accepted : (state.fsccView port.channel).Accepts value setting
      · refine ⟨.status 0, state.applyFscc port value setting, ?_,
          .inl ⟨setting, value, rfl, rfl, accepted, rfl⟩⟩
        simp [Operation.program,
          run_set_of_accepts fscc state value setting accepted]
      · rcases refuses_set_fscc fscc state value setting accepted with
          ⟨status, failed, runSet, _⟩
        refine ⟨.status status, state, by simp [Operation.program, runSet],
          .inr ⟨Event.writes_set_of_failed _ _ _ failed, fun other => rfl⟩⟩
  | get setting before =>
      rcases run_get_of_synced fscc state synced before setting with
        ⟨index, runGet⟩
      let answer := (state.fsccView port.channel).get before setting
      refine ⟨.value answer.1 answer.2, _, ?_,
        .inr ⟨rfl, fun other =>
          fsccView_setIndex state port.channel other index⟩⟩
      simp only [Operation.program, Machine.run_bind, runGet]
      rfl
  | setClockBits clockData allocated =>
      refine ⟨.status (if allocated then 0 else 1), state, ?_,
        .inr ⟨rfl, fun other => rfl⟩⟩
      simp only [Operation.program, fastcomSetClockBits, fscc, Machine.run_bind,
        run_setClockBitsFscc]
      rfl
  | enableAsyncMode =>
      rcases run_enableAsyncMode fscc state small with ⟨after, runAsync, same⟩
      exact ⟨.status 0, after, by simp [Operation.program, runAsync],
        .inr ⟨rfl, same⟩⟩
  | disableAsyncMode =>
      rcases run_disableAsyncMode fscc state small with ⟨after, runAsync, same⟩
      exact ⟨.status 0, after, by simp [Operation.program, runAsync],
        .inr ⟨rfl, same⟩⟩
  | setBaudRate value =>
      exact ⟨.status (-eprotonosupport), state,
        by simp [Operation.program, fastcomSetBaudRate, fscc],
        .inr ⟨rfl, fun other => rfl⟩⟩
  | getBaudRate before =>
      exact ⟨.rate (-eprotonosupport) before, state,
        by simp [Operation.program, fastcomGetBaudRate, fscc],
        .inr ⟨rfl, fun other => rfl⟩⟩

/-- LCR of both ports is put back. -/
theorem lcr_of_run_program (small : port.channel < 2)
    (synced : (state.fsccView port.channel).AcrSynced) {operation : Operation}
    {reply : Reply} {next : CardState}
    (run : (cardMachine .fscc).run (operation.program port) state =
      (some reply, next)) (other : Nat) :
    (next.uart other).lcr = (state.uart other).lcr := by
  rcases run_program_fscc fscc state small synced operation with
    ⟨actualReply, after, actualRun, outcome⟩
  obtain rfl : after = next := (Prod.mk.inj (actualRun.symm.trans run)).2
  rcases outcome with ⟨setting, value, _, _, _, rfl⟩ | ⟨_, same⟩
  · by_cases isOwn : other = port.channel
    · subst isOwn
      have own := fsccView_applyFscc_self state port small value setting
      exact (congrArg FsccView.lcr own).trans (FsccView.set_lcr _ value setting)
    · have others := fsccView_applyFscc_of_ne state port isOwn value setting
      exact congrArg FsccView.lcr others
  · exact congrArg FsccView.lcr (same other)

theorem next_of_run_get (synced : (state.fsccView port.channel).AcrSynced)
    {operation : Operation} (isGet : operation.isGet = true) {reply : Reply}
    {next : CardState}
    (run : (cardMachine .fscc).run (operation.program port) state =
      (some reply, next)) :
    ∃ index, next = state.setIndexed port.channel index
      (state.uart port.channel).indexed := by
  cases operation with
  | get setting before =>
      rcases run_get_of_synced fscc state synced before setting with
        ⟨index, runGet⟩
      simp only [Operation.program, Machine.run_bind, runGet] at run
      exact ⟨index, (Prod.mk.inj run).2.symm⟩
  | getBaudRate before =>
      simp only [Operation.program, fastcomGetBaudRate, fscc, Machine.run_bind,
        Machine.run_pure] at run
      refine ⟨(state.uart port.channel).spr, ?_⟩
      rw [← (Prod.mk.inj run).2]
      simp [CardState.setIndexed]
  | set | setClockBits | enableAsyncMode | disableAsyncMode | setBaudRate =>
      cases isGet

theorem run_set_settles (small : port.channel < 2) (value : BitVec 32)
    (setting : Setting) :
    ∃ status next, (cardMachine .fscc).run (setting.set port value) state =
        (some status, next) ∧
      next.fsccView port.channel =
        FsccView.model.settle (state.fsccView port.channel) value setting ∧
      ∀ other ≠ port.channel, next.fsccView other = state.fsccView other := by
  by_cases accepted : (state.fsccView port.channel).Accepts value setting
  · refine ⟨0, _, run_set_of_accepts fscc state value setting accepted, ?_, ?_⟩
    · rw [fsccView_applyFscc_self _ _ small]
      exact (if_pos accepted).symm
    · intro other different
      exact fsccView_applyFscc_of_ne state port different value setting
  · rcases refuses_set_fscc fscc state value setting accepted with
      ⟨status, _, run, _⟩
    exact ⟨status, state, run, (if_neg accepted).symm, fun _ _ => rfl⟩

theorem run_initTriggers_fscc :
    ∃ next, (cardMachine .fscc).run (fastcomInitTriggers port) state =
        (some (), next) ∧
      next.fsccView port.channel =
        { state.fsccView port.channel with
          lcr := 0xbf, fields := { state.fields port.channel with acr := 0 } } ∧
      ∀ other ≠ port.channel, next.fsccView other = state.fsccView other := by
  rcases write8_fscc_fcr state port.channel 0x01 with ⟨banked, plain, fcr⟩
  have efr : efrOffset = fcrOffset := rfl
  refine ⟨_, by
    simp only [fastcomInitTriggers, fscc, Machine.run_bind, run_iowrite8,
      run_storeAcr, fcr, write8_fscc_lcr, efr]
    rfl, ?_, ?_⟩
  · simp [CardState.fsccView, CardState.write8, Uart.write950, CardState.setAcr,
      fcrOffset, lcrOffset, CardState.firmwareRevision]
  · intro other different
    simp [CardState.fsccView, CardState.write8, Uart.write950, CardState.setAcr,
      fcrOffset, lcrOffset, CardState.firmwareRevision, different]

theorem run_serialfcPortNew_fscc (small : port.channel < 2)
    (fsccEnableAsync : Bool) :
    ∃ next, (cardMachine .fscc).run (serialfcPortNew fsccEnableAsync port)
        state = (some (), next) ∧
      next.fsccView port.channel =
        (state.fsccView port.channel).initialised ∧
      ∀ other ≠ port.channel, next.fsccView other = state.fsccView other := by
  rcases run_initTriggers_fscc fscc state with
    ⟨armed, runTriggers, ownArmed, othersArmed⟩
  rcases run_setDefaults
    (fun state value setting => run_set_settles fscc state small value setting)
    armed with ⟨settled, runDefaults, ownSettled, othersSettled⟩
  have async : ∃ next, (cardMachine .fscc).run
      (if fsccEnableAsync = true ∧ True then do
        let _ ← fsccEnableAsyncMode port
        pure ()
      else pure ()) settled = (some (), next) ∧
      ∀ other, next.fsccView other = settled.fsccView other := by
    cases fsccEnableAsync with
    | false => exact ⟨settled, by simp, fun _ => rfl⟩
    | true =>
        rcases run_enableAsyncMode fscc settled small with ⟨after, run, same⟩
        exact ⟨after, by simp [run], same⟩
  rcases async with ⟨next, runAsync, same⟩
  refine ⟨next, ?_, ?_, ?_⟩
  · simp only [serialfcPortNew, fscc, Machine.run_bind, fastcomInitGpio,
      Machine.run_pure, reduceCtorEq, if_false, runTriggers, runDefaults]
    exact runAsync
  · rw [same, ownSettled, ownArmed]
    rfl
  · intro other different
    rw [same, othersSettled other different, othersArmed other different]

end Calls

/-! ## Runs -/

section Runs

variable {fsccEnableAsync : Bool} {card : Card} {state : CardState}
  {history : List Event}

def FsccSynced (state : CardState) : Prop :=
  ∀ channel < 2, (state.fsccView channel).AcrSynced

section Steps

variable (fscc : fastcomGetCardType2 card = .fscc) (twoPorts : card.numPorts = 2)
include fscc twoPorts

theorem operates_fscc_follows (state : CardState) (event : Event)
    (next : CardState) (synced : FsccSynced state)
    (operates : Operates card state event next) :
    FsccView.model.Follows CardState.fsccView state event next := by
  rcases event with ⟨channel, operation, reply⟩
  rcases operates with ⟨inRange, run⟩
  have small : channel < 2 := twoPorts ▸ inRange
  rw [Card.machine, fscc] at run
  have isFscc : fastcomGetCardType ⟨card, channel⟩ = .fscc := fscc
  rcases run_program_fscc isFscc state small (synced channel small) operation
    with ⟨actualReply, after, actualRun, outcome⟩
  obtain ⟨rfl, rfl⟩ : actualReply = reply ∧ after = next := by
    simpa [actualRun] using run
  rcases outcome with ⟨setting, value, rfl, rfl, accepted, rfl⟩ |
    ⟨noWrite, same⟩
  · refine .inl ⟨setting, value, Event.writes_set channel setting value, accepted,
      fsccView_applyFscc_self state _ small value setting, ?_⟩
    intro other different
    exact fsccView_applyFscc_of_ne state ⟨card, channel⟩ different value setting
  · exact .inr ⟨noWrite, same⟩

theorem operates_fsccSynced (state : CardState) (event : Event)
    (next : CardState) (synced : FsccSynced state)
    (operates : Operates card state event next) : FsccSynced next :=
  (operates_fscc_follows fscc twoPorts state event next synced operates).keeps
    (fun _ value setting _ synced => synced.set value setting) synced

theorem exists_initialised_fscc (fsccEnableAsync : Bool) :
    ∃ state, Initialised fsccEnableAsync card state := by
  have runs : ∀ channel ∈ List.range card.numPorts, ∀ state, ∃ next,
      card.machine.run (serialfcPortNew fsccEnableAsync ⟨card, channel⟩) state =
        (some (), next) := by
    intro channel member state
    have small : channel < 2 := twoPorts ▸ List.mem_range.mp member
    have isFscc : fastcomGetCardType ⟨card, channel⟩ = .fscc := fscc
    rcases run_serialfcPortNew_fscc isFscc state small fsccEnableAsync with
      ⟨next, run, _⟩
    rw [Card.machine, fscc]
    exact ⟨next, run⟩
  rcases initialisePorts_runs runs .blank with ⟨state, run⟩
  exact ⟨state, .blank, run⟩

omit twoPorts in
theorem initialisePorts_fscc {channels : List Nat}
    (inRange : ∀ channel ∈ channels, channel < 2) {before state : CardState}
    (run : card.machine.run (initialisePorts fsccEnableAsync card channels) before =
      (some (), state))
    {channel : Nat} (member : channel ∈ channels) :
    ∃ view : FsccView, state.fsccView channel = view.initialised := by
  have portRun : ∀ (channel : Nat), channel < 2 → ∀ state next,
      card.machine.run (serialfcPortNew fsccEnableAsync ⟨card, channel⟩) state =
        (some (), next) →
      next.fsccView channel = (state.fsccView channel).initialised ∧
        ∀ other ≠ channel, next.fsccView other = state.fsccView other := by
    intro channel small state next run
    rw [Card.machine, fscc] at run
    have isFscc : fastcomGetCardType ⟨card, channel⟩ = .fscc := fscc
    rcases run_serialfcPortNew_fscc isFscc state small fsccEnableAsync with
      ⟨after, actualRun, own, others⟩
    obtain rfl : after = next := by simpa [actualRun] using run
    exact ⟨own, others⟩
  refine initialisePorts_establishes
    (fun channel state => ∃ view : FsccView,
      state.fsccView channel = view.initialised) ?_ ?_ inRange run
      (inRange channel member) (.inl member)
  · intro channel small state next run
    exact ⟨_, (portRun channel small state next run).1⟩
  · intro channel small other _ different state next run holding
    rcases holding with ⟨view, isView⟩
    exact ⟨view, ((portRun channel small state next run).2 other different).trans
      isView⟩

theorem initialised_fscc (initialised : Initialised fsccEnableAsync card state)
    {channel : Nat} (small : channel < 2) :
    ∃ view : FsccView, state.fsccView channel = view.initialised := by
  rcases initialised with ⟨before, run⟩
  have inRange : ∀ channel ∈ List.range card.numPorts, channel < 2 :=
    fun channel member => twoPorts ▸ List.mem_range.mp member
  exact initialisePorts_fscc fscc inRange run (List.mem_range.mpr (twoPorts ▸ small))

theorem initialised_fsccSynced (state : CardState)
    (initialised : Initialised fsccEnableAsync card state) :
    FsccSynced state := by
  intro channel small
  rcases initialised_fscc fscc twoPorts initialised small with ⟨view, isView⟩
  rw [isView]
  exact view.initialised_synced

theorem reachable_fsccSynced
    (reachable : Reachable fsccEnableAsync card state history) :
    FsccSynced state :=
  reachable.invariant (initialised_fsccSynced fscc twoPorts)
    (operates_fsccSynced fscc twoPorts)

theorem reachable_get_lastSet
    (reachable : Reachable fsccEnableAsync card state history)
    {channel : Nat} {setting : Setting} {value : BitVec 32}
    (isLast : lastSet history channel setting = some value)
    (before : BitVec 32) :
    (state.fsccView channel).get before setting = (0, value) :=
  SettingsModel.getLastSet FsccSynced
    (initialised_fsccSynced fscc twoPorts) (operates_fsccSynced fscc twoPorts)
    (operates_fscc_follows fscc twoPorts) reachable isLast before

end Steps

/-- Settings of an FSCC card do not disturb each other: the ACRs stay in step
with reading of the indexed registers disabled, every getter answers with what
was last set on its port, LCR is put back and is never 0xbf at an indexed
access, and getters change no register but SPR. -/
theorem reachable_fscc_settings (fscc : fastcomGetCardType2 card = .fscc)
    (twoPorts : card.numPorts = 2)
    (reachable : Reachable fsccEnableAsync card state history) {channel : Nat}
    (small : channel < 2) :
    ((state.uart channel).indexed acrOffset = (state.fields channel).acr ∧
        ((state.uart channel).indexed acrOffset).getLsbD 6 = false) ∧
      (∀ setting value before, lastSet history channel setting = some value →
        ∃ next, card.machine.run (setting.get ⟨card, channel⟩ before) state =
          (some (0, value), next)) ∧
      (∀ operation : Operation,
        ∃ reply next,
          card.machine.run (operation.program ⟨card, channel⟩) state =
            (some reply, next) ∧
          (∀ other, (next.uart other).lcr = (state.uart other).lcr) ∧
          (∀ step ∈ card.machine.steps (operation.program ⟨card, channel⟩) state,
            InWindow step) ∧
          (operation.isGet = true →
            ∃ index, next = state.setIndexed channel index
              (state.uart channel).indexed)) := by
  have isFscc : fastcomGetCardType ⟨card, channel⟩ = .fscc := fscc
  have synced : (state.fsccView channel).AcrSynced :=
    reachable_fsccSynced fscc twoPorts reachable channel small
  have machineEq : card.machine = cardMachine .fscc := by
    rw [Card.machine, fscc]
  rw [machineEq]
  refine ⟨⟨synced.hardware, ?_⟩, ?_, ?_⟩
  · exact (congrArg (fun acr => acr.getLsbD 6) synced.hardware).trans
      synced.readDisabled
  · intro setting value before isLast
    rcases run_get_of_synced isFscc state synced before setting with
      ⟨index, run⟩
    rw [reachable_get_lastSet fscc twoPorts reachable isLast before] at run
    exact ⟨_, run⟩
  · intro operation
    rcases run_program_fscc isFscc state small synced operation with
      ⟨reply, next, run, _⟩
    refine ⟨reply, next, run, ?_, inWindow_program _ state isFscc operation, ?_⟩
    · intro other
      exact lcr_of_run_program isFscc state small synced run other
    · intro isGet
      exact next_of_run_get isFscc state synced isGet run

end Runs

/-- A trigger level set on port 1 is read back there. -/
theorem reachable_fscc_settings_txTrigger :
    let card := Card.ofDevice fsccId 2
    ∃ state history,
      Reachable false card state history ∧
      lastSet history 1 .txTrigger = some 100 ∧
      ∃ next, card.machine.run (Setting.txTrigger.get ⟨card, 1⟩ 0) state =
        (some (0, 100), next) := by
  intro card
  have isFscc : fastcomGetCardType ⟨card, 1⟩ = .fscc := rfl
  have machineEq : card.machine = cardMachine .fscc := rfl
  rcases exists_initialised_fscc isFscc rfl false with ⟨started, initialised⟩
  have sets := run_set_of_accepts isFscc started 100 .txTrigger
    (by simp [FsccView.Accepts])
  have operates : Operates card started ⟨1, .set .txTrigger 100, .status 0⟩
      (started.applyFscc ⟨card, 1⟩ 100 .txTrigger) := by
    refine ⟨by decide, ?_⟩
    rw [machineEq]
    simp only [Operation.program, Machine.run_bind, sets]
    rfl
  have reachable := Run.step (Run.start initialised) operates
  refine ⟨_, _, reachable, by decide, ?_⟩
  exact (reachable_fscc_settings isFscc rfl reachable (by decide)).2.1
    .txTrigger 100 0 (by decide)

end SerialFc
