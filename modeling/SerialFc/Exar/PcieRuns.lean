import SerialFc.Exar.BaudRate
import SerialFc.Exar.PcieView

/-! # Runs of a PCIe card

One step of a run changes the view of one port at most, whichever of the up to
eight ports that is, because every read-modify-write of a shared register
changes the bit of its own channel only.
-/

namespace SerialFc

/-! ## Views of the changed card -/

section Views

variable (state : CardState) (port : Port) (value : BitVec 32)

theorem pcieView_applyPcie_self (small : port.channel < 8) (setting : Setting) :
    (state.applyPcie port value setting).pcieView port.channel =
      (state.pcieView port.channel).set value setting := by
  have bit : (1#8 <<< port.channel) ≠ 0#8 := shiftedOne_ne_zero small
  cases setting with
  | rs485 =>
      simp [CardState.applyPcie, CardState.pcieView, PcieView.set,
        CardState.setPlain, uartExarFctr, mcrOffset, uartExarTxtrg,
        uartExarRxtrg]
  | echoCancel =>
      simp [CardState.applyPcie, CardState.pcieView, PcieView.set,
        CardState.setConfig, anySet_switchBits _ bit, mpiolvlhOffset,
        mpiolvlOffset, uartExar4xmode, uartExar8xmode]
  | termination =>
      simp [CardState.applyPcie, CardState.pcieView, PcieView.set,
        CardState.setConfig, anySet_switchBits _ bit, mpiolvlhOffset,
        mpiolvlOffset, uartExar4xmode, uartExar8xmode]
  | isochronous | externalTransmit | frameLength => rfl
  | txTrigger | rxTrigger =>
      simp [CardState.applyPcie, CardState.pcieView, PcieView.set,
        CardState.setPlain, CardState.setField, PortFields.set, uartExarFctr,
        mcrOffset, uartExarTxtrg, uartExarRxtrg]
  | sampleRate =>
      simp [CardState.applyPcie, CardState.pcieView, PcieView.set,
        CardState.setConfig, CardState.setField, PortFields.set,
        anySet_switchBits _ bit, mpiolvlhOffset, mpiolvlOffset, uartExar4xmode,
        uartExar8xmode]

theorem pcieView_applyPcie_of_ne {other : Nat} (different : other ≠ port.channel)
    (setting : Setting) :
    (state.applyPcie port value setting).pcieView other =
      state.pcieView other := by
  have bits : (1#8 <<< port.channel) &&& (1#8 <<< other) = 0#8 :=
    shiftedOne_disjoint different.symm
  cases setting with
  | rs485 =>
      simp [CardState.applyPcie, CardState.pcieView, CardState.setPlain,
        different]
  | echoCancel =>
      simp [CardState.applyPcie, CardState.pcieView, CardState.setConfig,
        anySet_switchBits_of_disjoint _ bits, mpiolvlhOffset, mpiolvlOffset,
        uartExar4xmode, uartExar8xmode]
  | termination =>
      simp [CardState.applyPcie, CardState.pcieView, CardState.setConfig,
        anySet_switchBits_of_disjoint _ bits, mpiolvlhOffset, mpiolvlOffset,
        uartExar4xmode, uartExar8xmode]
  | isochronous | externalTransmit | frameLength => rfl
  | txTrigger | rxTrigger =>
      simp [CardState.applyPcie, CardState.pcieView, CardState.setPlain,
        CardState.setField, different]
  | sampleRate =>
      simp [CardState.applyPcie, CardState.pcieView, CardState.setConfig,
        CardState.setField, anySet_switchBits_of_disjoint _ bits, different,
        mpiolvlhOffset, mpiolvlOffset, uartExar4xmode, uartExar8xmode]

theorem pcieView_write8_low {offset : Nat} (low : offset ≤ lcrOffset)
    (channel other : Nat) (byte : BitVec 8) :
    (state.write8 .pcie channel offset byte).pcieView other =
      state.pcieView other := by
  have notConfig : ¬configBase ≤ offset := by
    simp only [configBase, lcrOffset] at low ⊢
    omega
  have plainKept : ∀ kept : Nat, lcrOffset < kept →
      ((state.uart channel).writeExar offset byte).plain kept =
        (state.uart channel).plain kept := by
    intro kept above
    have different : kept ≠ offset := by omega
    unfold Uart.writeExar
    split
    · rfl
    · split
      · rfl
      · simp [different]
  by_cases same : other = channel
  · subst same
    simp [CardState.write8, notConfig, CardState.pcieView,
      plainKept uartExarFctr (by decide), plainKept mcrOffset (by decide),
      plainKept uartExarTxtrg (by decide), plainKept uartExarRxtrg (by decide)]
  · simp [CardState.write8, notConfig, CardState.pcieView, same]

theorem pcieView_setFctr_self (channel : Nat) (byte : BitVec 8) :
    (state.setPlain channel uartExarFctr byte).pcieView channel =
      { state.pcieView channel with fctr := byte } := by
  simp [CardState.setPlain, CardState.pcieView, uartExarFctr, mcrOffset,
    uartExarTxtrg, uartExarRxtrg]

theorem pcieView_setFctr_of_ne {channel other : Nat} (different : other ≠ channel)
    (byte : BitVec 8) :
    (state.setPlain channel uartExarFctr byte).pcieView other =
      state.pcieView other := by
  simp [CardState.setPlain, CardState.pcieView, different]

theorem pcieView_setSelect (other : Nat) (low high : BitVec 8) :
    ((state.setConfig mpioselOffset low).setConfig mpioselhOffset high).pcieView
      other = state.pcieView other := by
  simp [CardState.setConfig, CardState.pcieView, mpioselOffset, mpioselhOffset,
    mpiolvlhOffset, mpiolvlOffset, uartExar4xmode, uartExar8xmode]

end Views

/-! ## The baud rate keeps every view -/

def KeepsPcieViews (access : Access) : Prop :=
  ∀ state channel, (((cardMachine .pcie).execute state access).2).pcieView
    channel = state.pcieView channel

theorem Program.Performs.keeps_pcieViews {α : Type} {program : Driver α}
    (performs : program.Performs KeepsPcieViews) (state : CardState)
    (channel : Nat) :
    ((cardMachine .pcie).run program state).2.pcieView channel =
      state.pcieView channel := by
  apply Machine.run_preserves (cardMachine .pcie)
    (fun after => after.pcieView channel = state.pcieView channel)
  · intro step member holding
    rw [Machine.performs_steps _ performs state step member]
    exact holding
  · rfl

section BaudRate

variable (port : Port)

theorem ioread8_keepsPcieViews (offset : Nat) :
    (ioread8 port offset).Performs KeepsPcieViews :=
  ⟨fun _ _ => rfl, fun _ => trivial⟩

theorem iowrite8_keepsPcieViews {offset : Nat} (low : offset ≤ lcrOffset)
    (value : BitVec 8) :
    (iowrite8 port offset value).Performs KeepsPcieViews :=
  ⟨fun state channel =>
    pcieView_write8_low state low port.channel channel value, fun _ => trivial⟩

theorem load_keepsPcieViews (field : PortField) :
    (load port field).Performs KeepsPcieViews :=
  ⟨fun _ _ => rfl, fun _ => trivial⟩

theorem divide_keepsPcieViews {w : Nat} (dividend divisor : BitVec w) :
    (divide dividend divisor).Performs KeepsPcieViews := by
  unfold divide
  split <;> trivial

theorem pcieSetBaudRate_keepsPcieViews (value : BitVec 64) :
    (pcieSetBaudRate port value).Performs KeepsPcieViews := by
  apply Program.performs_bind (load_keepsPcieViews port _)
  intro sampleRate
  apply Program.performs_bind (divide_keepsPcieViews _ _)
  intro limit
  split
  · trivial
  · apply Program.performs_bind (ioread8_keepsPcieViews port _)
    intro origLcr
    apply Program.performs_bind (iowrite8_keepsPcieViews port (by decide) _)
    intro _
    apply Program.performs_bind (divide_keepsPcieViews _ _)
    intro scaled
    apply Program.performs_bind (load_keepsPcieViews port _)
    intro sampleRate
    apply Program.performs_bind (divide_keepsPcieViews _ _)
    intro quotient
    apply Program.performs_bind (ioread8_keepsPcieViews port _)
    intro dld
    apply Program.performs_bind (iowrite8_keepsPcieViews port (by decide) _)
    intro _
    apply Program.performs_bind (iowrite8_keepsPcieViews port (by decide) _)
    intro _
    apply Program.performs_bind (iowrite8_keepsPcieViews port (by decide) _)
    intro _
    apply Program.performs_bind (iowrite8_keepsPcieViews port (by decide) _)
    intro _
    trivial

theorem pcieGetBaudRate_keepsPcieViews :
    (pcieGetBaudRate port).Performs KeepsPcieViews := by
  apply Program.performs_bind (ioread8_keepsPcieViews port _)
  intro origLcr
  apply Program.performs_bind (iowrite8_keepsPcieViews port (by decide) _)
  intro _
  apply Program.performs_bind (ioread8_keepsPcieViews port _)
  intro dlm
  apply Program.performs_bind (ioread8_keepsPcieViews port _)
  intro dll
  apply Program.performs_bind (ioread8_keepsPcieViews port _)
  intro dld
  apply Program.performs_bind (divide_keepsPcieViews _ _)
  intro scaled
  apply Program.performs_bind (divide_keepsPcieViews _ _)
  intro perDivisor
  apply Program.performs_bind (load_keepsPcieViews port _)
  intro sampleRate
  apply Program.performs_bind (divide_keepsPcieViews _ _)
  intro value
  apply Program.performs_bind (iowrite8_keepsPcieViews port (by decide) _)
  intro _
  trivial

end BaudRate

/-! ## One call -/

namespace PcieView

/-- The view a port starts with: auto-RTS triggers selected in FCTR, and the
defaults. -/
def initialised (view : PcieView) : PcieView :=
  model.settleAll { view with fctr := view.fctr ||| 0xc0 } defaultSettings

theorem initialised_shadowed (view : PcieView) :
    view.initialised.Shadowed := by
  refine ⟨.inr (.inr ⟨?_, ?_, ?_⟩), ?_, ?_⟩ <;>
    simp [initialised, defaultSettings, SettingsModel.settleAll,
      SettingsModel.settle, model, Accepts, set, defaultSampleRate,
      defaultTxTriggerLevel, defaultRxTriggerLevel]

end PcieView

section Calls

variable {port : Port} (pcie : fastcomGetCardType port = .pcie)
variable (state : CardState)
include pcie

/-- A completed call either sets what its argument asks for on its own port,
or shows in no port's view. -/
theorem run_program_pcie (operation : Operation) {reply : Reply}
    {next : CardState}
    (run : (cardMachine .pcie).run (operation.program port) state =
      (some reply, next)) :
    (∃ setting value, operation = .set setting value ∧ reply = .status 0 ∧
        PcieView.Accepts value setting ∧
        next = state.applyPcie port value setting) ∨
      ((Event.mk port.channel operation reply).writes = none ∧
        ∀ other, next.pcieView other = state.pcieView other) := by
  cases operation with
  | set setting value =>
      by_cases accepted : PcieView.Accepts value setting
      · simp only [Operation.program, Machine.run_bind,
          run_set_pcie_of_accepts pcie state value setting accepted] at run
        obtain ⟨rfl, rfl⟩ : Reply.status 0 = reply ∧ _ = next := by
          simpa using run
        exact .inl ⟨setting, value, rfl, rfl, accepted, rfl⟩
      · rcases refuses_set_pcie pcie state value setting accepted with
          ⟨status, failed, runSet, _⟩
        simp only [Operation.program, Machine.run_bind, runSet] at run
        obtain ⟨rfl, rfl⟩ : Reply.status status = reply ∧ state = next := by
          simpa using run
        exact .inr ⟨Event.writes_set_of_failed _ _ _ failed, fun _ => rfl⟩
  | get setting before =>
      simp only [Operation.program, Machine.run_bind,
        run_get_pcie pcie state before setting] at run
      obtain ⟨_, rfl⟩ : _ ∧ state = next := Prod.mk.inj run
      exact .inr ⟨rfl, fun _ => rfl⟩
  | setClockBits clockData allocated =>
      simp only [Operation.program, fastcomSetClockBits, pcie, Machine.run_bind,
        Machine.run_pure] at run
      obtain ⟨_, rfl⟩ : _ ∧ state = next := Prod.mk.inj run
      exact .inr ⟨rfl, fun _ => rfl⟩
  | enableAsyncMode =>
      have notFscc : CardType.pcie ≠ .fscc := by decide
      simp only [Operation.program, fsccEnableAsyncMode, pcie,
        if_pos notFscc, Machine.run_bind, Machine.run_pure] at run
      obtain ⟨_, rfl⟩ : _ ∧ state = next := Prod.mk.inj run
      exact .inr ⟨rfl, fun _ => rfl⟩
  | disableAsyncMode =>
      have notFscc : CardType.pcie ≠ .fscc := by decide
      simp only [Operation.program, fsccDisableAsyncMode, pcie,
        if_pos notFscc, Machine.run_bind, Machine.run_pure] at run
      obtain ⟨_, rfl⟩ : _ ∧ state = next := Prod.mk.inj run
      exact .inr ⟨rfl, fun _ => rfl⟩
  | setBaudRate value =>
      have keeps : ((Operation.setBaudRate value).program port).Performs
          KeepsPcieViews := by
        simp only [Operation.program, fastcomSetBaudRate, pcie]
        exact Program.performs_bind (pcieSetBaudRate_keepsPcieViews port value)
          fun _ => trivial
      have same := keeps.keeps_pcieViews state
      rw [run] at same
      exact .inr ⟨rfl, same⟩
  | getBaudRate before =>
      have keeps : ((Operation.getBaudRate before).program port).Performs
          KeepsPcieViews := by
        simp only [Operation.program, fastcomGetBaudRate, pcie]
        exact Program.performs_bind (pcieGetBaudRate_keepsPcieViews port)
          fun _ => trivial
      have same := keeps.keeps_pcieViews state
      rw [run] at same
      exact .inr ⟨rfl, same⟩

theorem run_set_settles_pcie (small : port.channel < 8) (value : BitVec 32)
    (setting : Setting) :
    ∃ status next, (cardMachine .pcie).run (setting.set port value) state =
        (some status, next) ∧
      next.pcieView port.channel =
        PcieView.model.settle (state.pcieView port.channel) value setting ∧
      ∀ other ≠ port.channel, next.pcieView other = state.pcieView other := by
  by_cases accepted : PcieView.Accepts value setting
  · refine ⟨0, _, run_set_pcie_of_accepts pcie state value setting accepted,
      ?_, ?_⟩
    · rw [pcieView_applyPcie_self _ _ _ small]
      exact (if_pos accepted).symm
    · intro other different
      exact pcieView_applyPcie_of_ne state port value different setting
  · rcases refuses_set_pcie pcie state value setting accepted with
      ⟨status, _, run, _⟩
    exact ⟨status, state, run, (if_neg accepted).symm, fun _ _ => rfl⟩

theorem run_serialfcPortNew_pcie (small : port.channel < 8)
    (fsccEnableAsync : Bool) :
    ∃ next, (cardMachine .pcie).run (serialfcPortNew fsccEnableAsync port)
        state = (some (), next) ∧
      next.pcieView port.channel =
        (state.pcieView port.channel).initialised ∧
      ∀ other ≠ port.channel, next.pcieView other = state.pcieView other := by
  have exar : CardType.pcie ≠ .fscc := by decide
  generalize selectedEq : (state.setConfig mpioselOffset 0x00).setConfig
    mpioselhOffset 0x00 = selected
  generalize filledEq : selected.write8 .pcie port.channel fcrOffset 0x01 = filled
  generalize armedEq : filled.setPlain port.channel uartExarFctr
    ((selected.uart port.channel).plain uartExarFctr ||| 0xc0) = armed
  have viewFilled : ∀ other, filled.pcieView other = state.pcieView other := by
    intro other
    rw [← filledEq, pcieView_write8_low selected (by decide), ← selectedEq,
      pcieView_setSelect]
  have fctr : (selected.uart port.channel).plain uartExarFctr =
      (state.pcieView port.channel).fctr := by
    rw [← selectedEq]
    rfl
  rcases run_setDefaults
    (fun state value setting =>
      run_set_settles_pcie pcie state small value setting)
    armed with ⟨next, runDefaults, own, others⟩
  refine ⟨next, ?_, ?_, ?_⟩
  · simp only [serialfcPortNew, pcie, Machine.run_bind, fastcomInitGpio,
      fastcomInitTriggers, Machine.run_pure, reduceCtorEq, if_false,
      run_ioread8, run_iowrite8, ne_eq, not_false_eq_true, write8_config,
      isConfig_mpiosel, isConfig_mpioselh, selectedEq, read8_plain,
      isReadable_fctr, filledEq, write8_plain, isPlain_fctr, armedEq,
      runDefaults, and_false]
  · rw [own, ← armedEq, pcieView_setFctr_self, viewFilled, fctr]
    rfl
  · intro other different
    rw [others other different, ← armedEq, pcieView_setFctr_of_ne _ different,
      viewFilled]

end Calls

/-! ## Runs -/

section Runs

variable {fsccEnableAsync : Bool} {card : Card} {state : CardState}
  {history : List Event}

def PcieShadowed (card : Card) (state : CardState) : Prop :=
  ∀ channel < card.numPorts, (state.pcieView channel).Shadowed

section Steps

variable (pcie : fastcomGetCardType2 card = .pcie) (ports : card.numPorts ≤ 8)
include pcie ports

theorem operates_pcie_follows (state : CardState) (event : Event)
    (next : CardState) (operates : Operates card state event next) :
    PcieView.model.Follows CardState.pcieView state event next := by
  rcases event with ⟨channel, operation, reply⟩
  rcases operates with ⟨inRange, run⟩
  have small : channel < 8 := Nat.lt_of_lt_of_le inRange ports
  rw [Card.machine, pcie] at run
  have isPcie : fastcomGetCardType ⟨card, channel⟩ = .pcie := pcie
  rcases run_program_pcie isPcie state operation run with
    ⟨setting, value, rfl, rfl, accepted, rfl⟩ | ⟨noWrite, same⟩
  · refine .inl ⟨setting, value, Event.writes_set channel setting value, accepted,
      pcieView_applyPcie_self state _ value small setting, ?_⟩
    intro other different
    exact pcieView_applyPcie_of_ne state ⟨card, channel⟩ value different setting
  · exact .inr ⟨noWrite, same⟩

theorem operates_pcieShadowed (state : CardState) (event : Event)
    (next : CardState) (shadowed : PcieShadowed card state)
    (operates : Operates card state event next) : PcieShadowed card next :=
  (operates_pcie_follows pcie ports state event next operates).keeps
    (fun _ value setting accepted shadowed =>
      shadowed.set value setting accepted) shadowed

theorem initialisePorts_pcie {channels : List Nat}
    (inRange : ∀ channel ∈ channels, channel < card.numPorts)
    {before state : CardState}
    (run : card.machine.run (initialisePorts fsccEnableAsync card channels) before =
      (some (), state))
    {channel : Nat} (member : channel ∈ channels) :
    ∃ view : PcieView, state.pcieView channel = view.initialised := by
  have portRun : ∀ (channel : Nat), channel < card.numPorts → ∀ state next,
      card.machine.run (serialfcPortNew fsccEnableAsync ⟨card, channel⟩) state =
        (some (), next) →
      next.pcieView channel = (state.pcieView channel).initialised ∧
        ∀ other ≠ channel, next.pcieView other = state.pcieView other := by
    intro channel inRange state next run
    have small : channel < 8 := Nat.lt_of_lt_of_le inRange ports
    rw [Card.machine, pcie] at run
    have isPcie : fastcomGetCardType ⟨card, channel⟩ = .pcie := pcie
    rcases run_serialfcPortNew_pcie isPcie state small fsccEnableAsync with
      ⟨after, actualRun, own, others⟩
    obtain rfl : after = next := by simpa [actualRun] using run
    exact ⟨own, others⟩
  refine initialisePorts_establishes
    (fun channel state => ∃ view : PcieView,
      state.pcieView channel = view.initialised) ?_ ?_ inRange run
      (inRange channel member) (.inl member)
  · intro channel inRange state next run
    exact ⟨_, (portRun channel inRange state next run).1⟩
  · intro channel inRange other _ different state next run holding
    rcases holding with ⟨view, isView⟩
    exact ⟨view, ((portRun channel inRange state next run).2 other
      different).trans isView⟩

theorem initialised_pcie (initialised : Initialised fsccEnableAsync card state)
    {channel : Nat} (inRange : channel < card.numPorts) :
    ∃ view : PcieView, state.pcieView channel = view.initialised := by
  rcases initialised with ⟨before, run⟩
  exact initialisePorts_pcie pcie ports (fun _ => List.mem_range.mp) run
    (List.mem_range.mpr inRange)

theorem initialised_pcieShadowed (state : CardState)
    (initialised : Initialised fsccEnableAsync card state) :
    PcieShadowed card state := by
  intro channel inRange
  rcases initialised_pcie pcie ports initialised inRange with ⟨view, isView⟩
  rw [isView]
  exact view.initialised_shadowed

theorem exists_initialised_pcie (fsccEnableAsync : Bool) :
    ∃ state, Initialised fsccEnableAsync card state := by
  have runs : ∀ channel ∈ List.range card.numPorts, ∀ state, ∃ next,
      card.machine.run (serialfcPortNew fsccEnableAsync ⟨card, channel⟩) state =
        (some (), next) := by
    intro channel member state
    have small : channel < 8 :=
      Nat.lt_of_lt_of_le (List.mem_range.mp member) ports
    have isPcie : fastcomGetCardType ⟨card, channel⟩ = .pcie := pcie
    rcases run_serialfcPortNew_pcie isPcie state small fsccEnableAsync with
      ⟨next, run, _⟩
    rw [Card.machine, pcie]
    exact ⟨next, run⟩
  rcases initialisePorts_runs runs .blank with ⟨state, run⟩
  exact ⟨state, .blank, run⟩

theorem reachable_pcieShadowed
    (reachable : Reachable fsccEnableAsync card state history) :
    PcieShadowed card state :=
  reachable.invariant (initialised_pcieShadowed pcie ports)
    (operates_pcieShadowed pcie ports)

/-- Along every run of a PCIe card the mode bits of a port encode its sample
rate, which is never zero, the write-only trigger registers hold their
shadows, and every getter answers with what was last set on its port. -/
theorem reachable_pcie_settings
    (reachable : Reachable fsccEnableAsync card state history) {channel : Nat}
    (inRange : channel < card.numPorts) :
    let modes := ((state.config uartExar4xmode).getLsbD channel,
      (state.config uartExar8xmode).getLsbD channel)
    let fields := state.fields channel
    ((modes = (true, false) ↔ fields.sampleRate = 4) ∧
        (modes = (false, true) ↔ fields.sampleRate = 8) ∧
        (modes = (false, false) ↔ fields.sampleRate = 16) ∧
        modes ≠ (true, true)) ∧
      (fields.sampleRate ≠ 0 ∧ ∀ value ≠ 0, ∃ status next,
        card.machine.run (fastcomSetBaudRate ⟨card, channel⟩ value) state =
          (some status, next)) ∧
      (((state.uart channel).plain uartExarTxtrg).setWidth 32 =
          fields.txTrigger ∧
        ((state.uart channel).plain uartExarRxtrg).setWidth 32 =
          fields.rxTrigger) ∧
      ∀ setting value before, lastSet history channel setting = some value →
        card.machine.run (setting.get ⟨card, channel⟩ before) state =
          (some (0, value), state) := by
  intro modes fields
  have small : channel < 8 := Nat.lt_of_lt_of_le inRange ports
  have isPcie : fastcomGetCardType ⟨card, channel⟩ = .pcie := pcie
  have machineEq : card.machine = cardMachine .pcie := by
    rw [Card.machine, pcie]
  have shadowed : (state.pcieView channel).Shadowed :=
    reachable_pcieShadowed pcie ports reachable channel inRange
  have rate := shadowed.rate
  simp only [CardState.pcieView, anySet_shiftedOne small] at rate
  rw [machineEq]
  refine ⟨?_, ⟨shadowed.rate_ne_zero, ?_⟩,
    ⟨shadowed.txTrigger, shadowed.rxTrigger⟩, ?_⟩
  · rcases rate with ⟨isRate, bit4x, bit8x⟩ | ⟨isRate, bit4x, bit8x⟩ |
      ⟨isRate, bit4x, bit8x⟩ <;>
      simp [modes, fields, isRate, bit4x, bit8x]
  · intro value nonzero
    have run := run_pcieSetBaudRate ⟨card, channel⟩ state nonzero
      shadowed.rate_ne_zero
    simp only [fastcomSetBaudRate, isPcie, run]
    split
    · exact ⟨_, _, rfl⟩
    · exact ⟨_, _, rfl⟩
  · intro setting value before isLast
    have answer := SettingsModel.getLastSet (fun _ => True)
      (fun _ _ => trivial) (fun _ _ _ _ _ => trivial)
      (fun state event next _ operates =>
        operates_pcie_follows pcie ports state event next operates)
      reachable isLast before
    rw [run_get_pcie isPcie]
    exact congrArg (fun result => (some result, state)) answer

end Steps

end Runs

/-- On an eight-port card, port 7 keeps the rate set on it. -/
theorem reachable_pcie_settings_port7 :
    let card := Card.ofDevice fc422_8PcieId 8
    ∃ state history,
      Reachable false card state history ∧
      lastSet history 7 .sampleRate = some 4 ∧
      (state.config uartExar4xmode).getLsbD 7 = true ∧
      card.machine.run (Setting.sampleRate.get ⟨card, 7⟩ 0) state =
        (some (0, 4), state) := by
  intro card
  have isPcie : fastcomGetCardType ⟨card, 7⟩ = .pcie := rfl
  have ports : card.numPorts ≤ 8 := Nat.le_refl 8
  have machineEq : card.machine = cardMachine .pcie := rfl
  rcases exists_initialised_pcie isPcie ports false with ⟨started, initialised⟩
  have sets := run_set_pcie_of_accepts isPcie started 4 .sampleRate
    (by simp [PcieView.Accepts])
  have operates : Operates card started ⟨7, .set .sampleRate 4, .status 0⟩
      (started.applyPcie ⟨card, 7⟩ 4 .sampleRate) := by
    refine ⟨by decide, ?_⟩
    rw [machineEq]
    simp only [Operation.program, Machine.run_bind, sets]
    rfl
  have reachable := Run.step (Run.start initialised) operates
  have settings := reachable_pcie_settings isPcie ports reachable
    (show 7 < card.numPorts by decide)
  refine ⟨_, _, reachable, by decide, ?_,
    settings.2.2.2 .sampleRate 4 0 (by decide)⟩
  have rate := settings.1.1.mpr rfl
  exact (Prod.mk.inj rate).1

end SerialFc
