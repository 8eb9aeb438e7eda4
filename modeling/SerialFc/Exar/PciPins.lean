import SerialFc.Driver.Views
import SerialFc.Exar.PciRuns

/-! # Who owns the pins of a PCI card

RS485 and echo cancel of the ports of one card share MPIOLVL. Up to channel 3
every port has a driver enable of its own; the enable of channel 4 is the echo
cancel pin, and the channels above have none.
-/

namespace SerialFc

/-! ## What calls recorded -/

def lastRs485 (history : List Event) (channel : Nat) : BitVec 32 :=
  (lastSet history channel .rs485).getD defaultRs485

/-- Echo cancel is a setting of the board. -/
def Event.echoWrite (event : Event) : Option (Unit × BitVec 32) :=
  match event.writes with
  | some ((_, .echoCancel), value) => some ((), value)
  | _ => none

def lastEchoCancel (history : List Event) : BitVec 32 :=
  (lastWrite Event.echoWrite history ()).getD defaultEchoCancel

def IsSwitch (value : BitVec 32) : Prop :=
  value = 0 ∨ value = 1

theorem ite_isOn {value : BitVec 32} (isSwitch : IsSwitch value) :
    (if decide (value = 1) = true then 1#32 else 0#32) = value := by
  rcases isSwitch with rfl | rfl <;> decide

theorem denote_isSwitch {setting : Setting}
    (switched : setting = .rs485 ∨ setting = .echoCancel) (value : BitVec 32) :
    IsSwitch (setting.denote value) := by
  have isSwitch : IsSwitch (if value ≠ 0 then 1 else 0) := by
    split
    · exact .inr rfl
    · exact .inl rfl
  rcases switched with rfl | rfl <;> exact isSwitch

theorem lastRs485_isSwitch (history : List Event) (channel : Nat) :
    IsSwitch (lastRs485 history channel) := by
  unfold lastRs485
  cases isLast : lastSet history channel .rs485 with
  | none => exact .inl rfl
  | some value =>
      refine lastWrite_satisfies
        (fun key value => key.2 = .rs485 → IsSwitch value) ?_ isLast rfl
      rintro event ⟨own, setting⟩ value written rfl
      rcases Event.writes_denote written with ⟨argument, rfl⟩
      exact denote_isSwitch (.inl rfl) argument

theorem lastEchoCancel_isSwitch (history : List Event) :
    IsSwitch (lastEchoCancel history) := by
  unfold lastEchoCancel
  cases isLast : lastWrite Event.echoWrite history () with
  | none => exact .inl rfl
  | some value =>
      refine lastWrite_satisfies (fun _ value => IsSwitch value) ?_ isLast
      intro event key value written
      unfold Event.echoWrite at written
      split at written
      case h_1 own value' isWrite =>
        obtain rfl : value' = value := by simpa using written
        rcases Event.writes_denote isWrite with ⟨argument, rfl⟩
        exact denote_isSwitch (.inr rfl) argument
      case h_2 => cases written

/-- What a port of a PCI card is to show after a history, if `pin` is its
driver enable in MPIOLVL. -/
structure PciPortShows (card : Card) (state : CardState) (history : List Event)
    (channel pin : Nat) : Prop where
  transmitter : (state.config mpiolvlOffset).getLsbD pin = false ↔
    lastRs485 history channel = 1
  reported : ∀ before,
    card.machine.run (fastcomGetRs485 ⟨card, channel⟩ before) state =
      (some (0, lastRs485 history channel), state)
  echoCancel : ∀ before,
    card.machine.run (fastcomGetEchoCancel ⟨card, channel⟩ before) state =
      (some (lastEchoCancel history), state)

def PciPinsOwned (fsccEnableAsync : Bool) (card : Card) : Prop :=
  ∃ owner : Nat → Nat,
    (∀ left < card.numPorts, ∀ right < card.numPorts,
      owner left = owner right → left = right) ∧
    ∀ state history, Reachable fsccEnableAsync card state history →
      ∀ channel < card.numPorts,
        PciPortShows card state history channel (owner channel)

/-! ## The pins of a port -/

def PciRs485 (state : CardState) (channel : Nat) (enabled : Bool) : Prop :=
  anySet (state.config mpiolvlOffset) (0x8#8 <<< channel) = !enabled ∧
    anySet ((state.uart channel).plain uartExarFctr) 0x20 = enabled

def PciEcho (state : CardState) (on : Bool) : Prop :=
  anySet (state.config mpiolvlOffset) 0x80#8 = on

theorem transmitterMask_eq (channel : Nat) :
    0x8#8 <<< channel = 1#8 <<< (3 + channel) := by
  rw [BitVec.shiftLeft_add]
  rfl

theorem transmitterMask_ne_zero {channel : Nat} (low : channel < 4) :
    0x8#8 <<< channel ≠ 0#8 := by
  interval_cases channel <;> decide

theorem transmitterMask_disjoint {left right : Nat} (different : left ≠ right) :
    (0x8#8 <<< left) &&& (0x8#8 <<< right) = 0#8 := by
  rw [transmitterMask_eq, transmitterMask_eq]
  exact shiftedOne_disjoint (by omega)

theorem transmitterMask_echo {channel : Nat} (low : channel < 4) :
    (0x8#8 <<< channel) &&& 0x80#8 = 0#8 := by
  interval_cases channel <;> decide

theorem echo_transmitterMask {channel : Nat} (low : channel < 4) :
    0x80#8 &&& (0x8#8 <<< channel) = 0#8 := by
  rw [BitVec.and_comm]
  exact transmitterMask_echo low

section Settings

variable {state : CardState} {port : Port}

theorem applyPci_rs485 (low : port.channel < 4) (value : BitVec 32) :
    PciRs485 (state.applyPci port value .rs485) port.channel
      (decide (value ≠ 0)) := by
  have pin := anySet_switchBits (decide (value = 0)) (transmitterMask_ne_zero low)
    (state.config mpiolvlOffset)
  have auto := anySet_switchBits (decide (value ≠ 0))
    (show 0x20#8 ≠ 0#8 by decide) ((state.uart port.channel).plain uartExarFctr)
  refine ⟨?_, ?_⟩
  · simpa [CardState.applyPci, CardState.setPlain, CardState.setConfig] using pin
  · simpa [CardState.applyPci, CardState.setPlain, CardState.setConfig] using auto

theorem applyPci_echo (value : BitVec 32) :
    PciEcho (state.applyPci port value .echoCancel) (decide (value ≠ 0)) := by
  have pin := anySet_switchBits (decide (value ≠ 0))
    (show 0x80#8 ≠ 0#8 by decide) (state.config mpiolvlOffset)
  simpa [PciEcho, CardState.applyPci, CardState.setConfig] using pin

theorem denote_rs485_isOn (value : BitVec 32) :
    decide (Setting.rs485.denote value = 1) = decide (value ≠ 0) := by
  by_cases zero : value = 0 <;> simp [Setting.denote, zero]

theorem denote_echoCancel_isOn (value : BitVec 32) :
    decide (Setting.echoCancel.denote value = 1) = decide (value ≠ 0) := by
  by_cases zero : value = 0 <;> simp [Setting.denote, zero]

theorem applyPci_keeps_rs485 {channel : Nat} (low : channel < 4)
    {enabled : Bool} (value : BitVec 32) {setting : Setting}
    (foreign : ¬(setting = .rs485 ∧ port.channel = channel))
    (holds : PciRs485 state channel enabled) :
    PciRs485 (state.applyPci port value setting) channel enabled := by
  cases setting with
  | rs485 =>
      have different : port.channel ≠ channel := fun same => foreign ⟨rfl, same⟩
      have pin := anySet_switchBits_of_disjoint (decide (value = 0))
        (transmitterMask_disjoint different) (state.config mpiolvlOffset)
      refine ⟨?_, ?_⟩
      · rw [← holds.1, ← pin]
        simp [CardState.applyPci, CardState.setPlain, CardState.setConfig]
      · rw [← holds.2]
        simp [CardState.applyPci, CardState.setPlain, CardState.setConfig,
          different.symm]
  | echoCancel =>
      have pin := anySet_switchBits_of_disjoint (decide (value ≠ 0))
        (echo_transmitterMask low) (state.config mpiolvlOffset)
      refine ⟨?_, holds.2⟩
      rw [← holds.1, ← pin]
      simp [CardState.applyPci, CardState.setConfig]
  | termination | isochronous | externalTransmit | frameLength => exact holds
  | txTrigger | rxTrigger =>
      refine ⟨holds.1, ?_⟩
      rw [← holds.2]
      by_cases same : channel = port.channel
      · subst same
        simp [CardState.applyPci, CardState.setPlain, CardState.setField,
          uartExarFctr, uartExarTxtrg, uartExarRxtrg]
      · simp [CardState.applyPci, CardState.setPlain, CardState.setField, same]
  | sampleRate =>
      refine ⟨?_, holds.2⟩
      rw [← holds.1]
      simp [CardState.applyPci, CardState.setConfig, CardState.setField,
        mpiolvlOffset, uartExar8xmode]

theorem applyPci_keeps_echo (low : port.channel < 4) {on : Bool}
    (value : BitVec 32) {setting : Setting} (foreign : setting ≠ .echoCancel)
    (holds : PciEcho state on) :
    PciEcho (state.applyPci port value setting) on := by
  unfold PciEcho at holds ⊢
  cases setting with
  | rs485 =>
      have pin := anySet_switchBits_of_disjoint (decide (value = 0))
        (transmitterMask_echo low) (state.config mpiolvlOffset)
      rw [← holds, ← pin]
      simp [CardState.applyPci, CardState.setPlain, CardState.setConfig]
  | echoCancel => exact absurd rfl foreign
  | termination | isochronous | externalTransmit | frameLength => exact holds
  | txTrigger | rxTrigger => exact holds
  | sampleRate =>
      rw [← holds]
      simp [CardState.applyPci, CardState.setConfig, CardState.setField,
        mpiolvlOffset, uartExar8xmode]

end Settings

/-! ## Initialisation -/

def CardState.settlePci (state : CardState) (port : Port) (value : BitVec 32)
    (setting : Setting) : CardState :=
  if PciAccepts value setting then state.applyPci port value setting else state

section Initialisation

variable {port : Port} (pci : fastcomGetCardType port = .pci)
include pci

theorem run_setAll_pci (settings : List (Setting × BitVec 32))
    (state : CardState) :
    (cardMachine .pci).run (setAll port settings) state =
      (some (), settings.foldl
        (fun state default => state.settlePci port default.2 default.1)
        state) := by
  induction settings generalizing state with
  | nil => rfl
  | cons first later induction =>
      rcases first with ⟨setting, value⟩
      by_cases accepted : PciAccepts value setting
      · rw [setAll, Machine.run_bind,
          run_set_pci_of_accepts pci state value setting accepted,
          List.foldl_cons, CardState.settlePci, if_pos accepted]
        exact induction _
      · rcases refuses_set_pci pci state value setting accepted with
          ⟨status, _, run, _⟩
        rw [setAll, Machine.run_bind, run, List.foldl_cons,
          CardState.settlePci, if_neg accepted]
        exact induction _

theorem run_initGpio_pci (state : CardState) :
    ∃ selected, (cardMachine .pci).run (fastcomInitGpio port) state =
        (some (), selected) ∧
      selected.config mpiolvlOffset = state.config mpiolvlOffset ∧
      selected.config uartExar8xmode = state.config uartExar8xmode ∧
      selected.uart = state.uart ∧ selected.fields = state.fields := by
  simp only [fastcomInitGpio, pci]
  split
  · refine ⟨state.setConfig mpioselOffset 0x00, by simp, ?_, ?_, rfl, rfl⟩ <;>
      simp [CardState.setConfig, mpiolvlOffset, uartExar8xmode, mpioselOffset]
  · split
    · refine ⟨(state.setConfig mpioselOffset 0xc0).setConfig mpioinvOffset 0xc0,
        by simp [Machine.run_bind], ?_, ?_, rfl, rfl⟩ <;>
        simp [CardState.setConfig, mpiolvlOffset, uartExar8xmode, mpioselOffset,
          mpioinvOffset]
    · exact ⟨state, rfl, rfl, rfl, rfl, rfl⟩

omit pci in
theorem write8_pci_uart (state : CardState) (channel : Nat) {offset : Nat}
    (isUart : offset < configBase) (value : BitVec 8) :
    (state.write8 .pci channel offset value).config = state.config ∧
      (state.write8 .pci channel offset value).fields = state.fields ∧
      ∀ other ≠ channel,
        (state.write8 .pci channel offset value).uart other =
          state.uart other := by
  have notConfig := Nat.not_le.mpr isUart
  refine ⟨by simp [CardState.write8, notConfig],
    by simp [CardState.write8, notConfig], ?_⟩
  intro other different
  simp [CardState.write8, notConfig, different]

/-- Before the defaults are set, initialising a port leaves the pins, the
sampling modes, the shadow fields and the other UARTs as they were. -/
theorem run_serialfcPortNew_pci (fsccEnableAsync : Bool) (state : CardState) :
    ∃ armed, armed.config mpiolvlOffset = state.config mpiolvlOffset ∧
      armed.config uartExar8xmode = state.config uartExar8xmode ∧
      armed.fields = state.fields ∧
      (∀ other ≠ port.channel, armed.uart other = state.uart other) ∧
      (cardMachine .pci).run (serialfcPortNew fsccEnableAsync port) state =
        (some (), defaultSettings.foldl
          (fun state default => state.settlePci port default.2 default.1)
          armed) := by
  rcases run_initGpio_pci pci state with
    ⟨selected, run, mpiolvl, mode8x, uarts, fields⟩
  let filled := selected.write8 .pci port.channel fcrOffset 0x01
  let armed := filled.write8 .pci port.channel uartExarFctr
    (selected.read8 .pci port.channel uartExarFctr ||| 0xc0)
  have filledUart := write8_pci_uart selected port.channel
    (show fcrOffset < configBase by decide) 0x01
  have armedUart := write8_pci_uart filled port.channel
    (show uartExarFctr < configBase by decide)
    (selected.read8 .pci port.channel uartExarFctr ||| 0xc0)
  refine ⟨armed, ?_, ?_, ?_, ?_, ?_⟩
  · rw [armedUart.1, filledUart.1, mpiolvl]
  · rw [armedUart.1, filledUart.1, mode8x]
  · rw [armedUart.2.1, filledUart.2.1, fields]
  · intro other different
    rw [armedUart.2.2 other different, filledUart.2.2 other different, uarts]
  · simp only [serialfcPortNew, pci, Machine.run_bind, run, fastcomInitTriggers,
      reduceCtorEq, if_true, run_ioread8, run_iowrite8, run_setClockBitsPci,
      setDefaults_eq, run_setAll_pci pci, and_false, if_false,
      Machine.run_pure]
    rfl

end Initialisation

theorem settlePci_keeps_rs485 {state : CardState} {port : Port} {channel : Nat}
    (low : channel < 4) {enabled : Bool} (value : BitVec 32) {setting : Setting}
    (foreign : ¬(setting = .rs485 ∧ port.channel = channel))
    (holds : PciRs485 state channel enabled) :
    PciRs485 (state.settlePci port value setting) channel enabled := by
  unfold CardState.settlePci
  split
  · exact applyPci_keeps_rs485 low value foreign holds
  · exact holds

theorem settleAll_keeps_rs485 {port : Port} {channel : Nat} (low : channel < 4)
    {enabled : Bool} (settings : List (Setting × BitVec 32))
    (foreign : ∀ default ∈ settings,
      ¬(default.1 = .rs485 ∧ port.channel = channel))
    {state : CardState} (holds : PciRs485 state channel enabled) :
    PciRs485 (settings.foldl
      (fun state default => state.settlePci port default.2 default.1) state)
      channel enabled := by
  induction settings generalizing state with
  | nil => exact holds
  | cons first later induction =>
      apply induction fun default member =>
        foreign default (List.mem_cons_of_mem _ member)
      exact settlePci_keeps_rs485 low first.2
        (foreign first List.mem_cons_self) holds

theorem settled_pci_own {port : Port} (low : port.channel < 4)
    (state : CardState) :
    PciRs485 (defaultSettings.foldl
        (fun state default => state.settlePci port default.2 default.1) state)
        port.channel false ∧
      PciEcho (defaultSettings.foldl
        (fun state default => state.settlePci port default.2 default.1) state)
        false := by
  refine ⟨?_, ?_⟩
  · rw [defaultSettings, List.foldl_cons]
    apply settleAll_keeps_rs485 low
    · simp
    · exact applyPci_rs485 low defaultRs485
  · have echo : ∀ before : CardState,
        PciEcho (before.applyPci port defaultEchoCancel .echoCancel) false :=
      fun before => applyPci_echo defaultEchoCancel
    -- The settings after echo cancel are refused on PCI ports.
    simp only [defaultSettings, List.foldl_cons, List.foldl_nil,
      CardState.settlePci, PciAccepts]
    exact echo _

theorem settled_pci_other {port : Port} {channel : Nat} (low : channel < 4)
    (different : port.channel ≠ channel) {state : CardState}
    (holds : PciRs485 state channel false) :
    PciRs485 (defaultSettings.foldl
      (fun state default => state.settlePci port default.2 default.1) state)
      channel false :=
  settleAll_keeps_rs485 low defaultSettings
    (fun _ _ isOwn => different isOwn.2) holds

/-! ## Runs -/

section Runs

variable {fsccEnableAsync : Bool} {card : Card} {state : CardState}
  {history : List Event} (pci : fastcomGetCardType2 card = .pci)
include pci

theorem exists_initialised_pci (fsccEnableAsync : Bool) :
    ∃ state, Initialised fsccEnableAsync card state := by
  have runs : ∀ channel ∈ List.range card.numPorts, ∀ state, ∃ next,
      card.machine.run (serialfcPortNew fsccEnableAsync ⟨card, channel⟩) state =
        (some (), next) := by
    intro channel _ state
    have isPci : fastcomGetCardType ⟨card, channel⟩ = .pci := pci
    rcases run_serialfcPortNew_pci isPci fsccEnableAsync state with
      ⟨armed, _, _, _, _, run⟩
    rw [Card.machine, pci]
    exact ⟨_, run⟩
  rcases initialisePorts_runs runs .blank with ⟨state, run⟩
  exact ⟨state, .blank, run⟩

theorem operates_pci {event : Event} {next : CardState}
    (operates : Operates card state event next) :
    (∃ setting value, event.writes =
        some ((event.channel, setting), setting.denote value) ∧
        PciAccepts value setting ∧
        next = state.applyPci ⟨card, event.channel⟩ value setting) ∨
      (event.writes = none ∧ next = state) := by
  rcases event with ⟨channel, operation, reply⟩
  rcases operates with ⟨inRange, run⟩
  rw [Card.machine, pci] at run
  have isPci : fastcomGetCardType ⟨card, channel⟩ = .pci := pci
  rcases run_program_pci isPci state operation with
    ⟨actualReply, after, actualRun, outcome⟩
  obtain ⟨rfl, rfl⟩ : actualReply = reply ∧ after = next := by
    simpa [actualRun] using run
  rcases outcome with ⟨setting, value, rfl, rfl, accepted, rfl⟩ |
    ⟨noWrite, same⟩
  · exact .inl ⟨setting, value, Event.writes_set channel setting value,
      accepted, rfl⟩
  · exact .inr ⟨noWrite, same⟩

variable (few : card.numPorts ≤ 4)
include few

theorem initialised_pci (initialised : Initialised fsccEnableAsync card state)
    {channel : Nat} (inRange : channel < card.numPorts) :
    PciRs485 state channel false ∧ PciEcho state false := by
  rcases initialised with ⟨before, run⟩
  refine serialfcCardPorts_establishes
    (fun channel state => PciRs485 state channel false ∧ PciEcho state false)
    ?_ ?_ run inRange
  · intro channel inRange state next run
    have isPci : fastcomGetCardType ⟨card, channel⟩ = .pci := pci
    rcases run_serialfcPortNew_pci isPci fsccEnableAsync state with
      ⟨armed, _, _, _, _, settled⟩
    rw [Card.machine, pci, settled] at run
    rcases Prod.mk.inj run with ⟨_, rfl⟩
    exact settled_pci_own (by show channel < 4; omega) armed
  · intro channel inRange other otherInRange different state next run holds
    have isPci : fastcomGetCardType ⟨card, channel⟩ = .pci := pci
    rcases run_serialfcPortNew_pci isPci fsccEnableAsync state with
      ⟨armed, mpiolvl, _, _, uarts, settled⟩
    rw [Card.machine, pci, settled] at run
    rcases Prod.mk.inj run with ⟨_, rfl⟩
    have armedRs485 : PciRs485 armed other false := by
      unfold PciRs485
      rw [mpiolvl, uarts other different]
      exact holds.1
    exact ⟨settled_pci_other (by omega) (Ne.symm different) armedRs485,
      (settled_pci_own (by show channel < 4; omega) armed).2⟩

theorem reachable_pciRs485
    (reachable : Reachable fsccEnableAsync card state history)
    {channel : Nat} (inRange : channel < card.numPorts) :
    PciRs485 state channel (decide (lastRs485 history channel = 1)) := by
  have isRecorded : recorded Event.writes (fun _ => some defaultRs485) history
      (channel, .rs485) = some (lastRs485 history channel) := by
    unfold recorded lastRs485 lastSet
    cases lastWrite Event.writes history (channel, .rs485) <;> rfl
  refine Run.tracks (fun _ => True)
    (fun state key value =>
      key.1 < card.numPorts → key.2 = .rs485 →
        PciRs485 state key.1 (decide (value = 1)))
    reachable (fun _ _ => trivial) ?_ (fun _ _ _ _ _ => trivial) ?_ ?_
    isRecorded inRange rfl
  · intro state key value initialised isDefault inRange _
    obtain rfl : defaultRs485 = value := Option.some.inj isDefault
    exact (initialised_pci pci few initialised inRange).1
  · rintro state event next ⟨own, setting⟩ value _ operates written inRange rfl
    rcases operates_pci pci operates with
      ⟨setting, argument, writes, _, rfl⟩ | ⟨noWrite, _⟩
    · rw [writes] at written
      obtain ⟨⟨rfl, rfl⟩, rfl⟩ :
          (event.channel = own ∧ setting = .rs485) ∧
            setting.denote argument = value := by
        simpa using written
      rw [denote_rs485_isOn]
      have low : event.channel < 4 := Nat.lt_of_lt_of_le operates.1 few
      exact @applyPci_rs485 state ⟨card, event.channel⟩ low argument
    · rw [noWrite] at written
      cases written
  · rintro state event next ⟨own, setting⟩ value _ operates notWritten holds
      inRange rfl
    have held := holds inRange rfl
    rcases operates_pci pci operates with
      ⟨setting, argument, writes, _, rfl⟩ | ⟨_, rfl⟩
    · apply applyPci_keeps_rs485 (by omega) argument _ held
      rintro ⟨rfl, rfl⟩
      exact notWritten (Setting.rs485.denote argument) writes
    · exact held

theorem reachable_pciEcho
    (reachable : Reachable fsccEnableAsync card state history)
    {channel : Nat} (inRange : channel < card.numPorts) :
    PciEcho state (decide (lastEchoCancel history = 1)) := by
  have isRecorded : recorded Event.echoWrite (fun _ => some defaultEchoCancel)
      history () = some (lastEchoCancel history) := by
    unfold recorded lastEchoCancel
    cases lastWrite Event.echoWrite history () <;> rfl
  refine Run.tracks (fun _ => True)
    (fun state _ value => PciEcho state (decide (value = 1)))
    reachable (fun _ _ => trivial) ?_ (fun _ _ _ _ _ => trivial) ?_ ?_
    isRecorded
  · intro state key value initialised isDefault
    obtain rfl : defaultEchoCancel = value := Option.some.inj isDefault
    exact (initialised_pci pci few initialised inRange).2
  · intro state event next key value _ operates written
    rcases operates_pci pci operates with
      ⟨setting, argument, writes, _, rfl⟩ | ⟨noWrite, _⟩
    · cases setting with
      | echoCancel =>
          obtain rfl : Setting.echoCancel.denote argument = value := by
            simpa [Event.echoWrite, writes] using written
          rw [denote_echoCancel_isOn]
          exact applyPci_echo argument
      | _ => simp [Event.echoWrite, writes] at written
    · simp [Event.echoWrite, noWrite] at written
  · intro state event next key value _ operates notWritten held
    rcases operates_pci pci operates with
      ⟨setting, argument, writes, _, rfl⟩ | ⟨_, rfl⟩
    · have low : event.channel < 4 := by
        have := operates.1
        omega
      apply applyPci_keeps_echo low argument _ held
      rintro rfl
      apply notWritten (Setting.echoCancel.denote argument)
      simp [Event.echoWrite, writes]
    · exact held

theorem reachable_pciPortShows
    (reachable : Reachable fsccEnableAsync card state history)
    {channel : Nat} (inRange : channel < card.numPorts) :
    PciPortShows card state history channel (3 + channel) := by
  have rs485 := reachable_pciRs485 pci few reachable inRange
  have echo := reachable_pciEcho pci few reachable inRange
  have isPci : fastcomGetCardType ⟨card, channel⟩ = .pci := pci
  refine ⟨?_, ?_, ?_⟩
  · have pin := rs485.1
    rw [transmitterMask_eq, anySet_shiftedOne (by omega)] at pin
    rw [pin]
    simp
  · intro before
    rw [Card.machine, pci]
    simp only [fastcomGetRs485, isPci, Machine.run_bind,
      run_getRs485Pci _ _ (show CardType.pci ≠ .fscc by decide)]
    have answer := ite_isOn (lastRs485_isSwitch history channel)
    rw [← answer, ← rs485.2]
    rfl
  · intro before
    rw [Card.machine, pci]
    simp only [fastcomGetEchoCancel, isPci, run_getEchoCancelPci]
    have answer := ite_isOn (lastEchoCancel_isSwitch history)
    rw [← answer, ← echo]
    rfl

end Runs

/-! ## Boards of more than four ports -/

section Overlap

variable {fsccEnableAsync : Bool} {card : Card}
  (pci : fastcomGetCardType2 card = .pci)
include pci

/-- The driver enable of channel 4 is the echo cancel pin: disabling rs485
there turns echo cancel on. -/
theorem not_pciPinsOwned_of_many (many : 4 < card.numPorts) :
    ¬PciPinsOwned fsccEnableAsync card := by
  rintro ⟨owner, _, shows⟩
  rcases exists_initialised_pci pci fsccEnableAsync with ⟨state, initialised⟩
  let event : Event := ⟨4, .set .rs485 0, .status 0⟩
  let next := state.applyPci ⟨card, 4⟩ 0 .rs485
  have isPci : fastcomGetCardType ⟨card, 4⟩ = .pci := pci
  have operates : Operates card state event next := by
    refine ⟨many, ?_⟩
    rw [Card.machine, pci]
    simp only [event, Operation.program, Machine.run_bind,
      run_set_pci_of_accepts isPci state 0 .rs485 trivial]
    rfl
  have reachable : Reachable fsccEnableAsync card next [event] :=
    .step (.start initialised) operates
  have answer := (shows next [event] reachable 4 many).echoCancel 0
  have on : anySet (next.config mpiolvlOffset) 0x80#8 = true := by
    have pin := anySet_switchBits true (show 0x80#8 ≠ 0#8 by decide)
      (state.config mpiolvlOffset)
    simpa [next, CardState.applyPci, CardState.setPlain, CardState.setConfig]
      using pin
  rw [Card.machine, pci] at answer
  simp only [fastcomGetEchoCancel, isPci, run_getEchoCancelPci] at answer
  rw [show anySet (next.config mpiolvlOffset) 0x80 = true from on] at answer
  have same : (1 : BitVec 32) = 0 :=
    Option.some.inj (Prod.mk.inj answer).1
  exact absurd same (by decide)

/-- The ports of a PCI card own their pins exactly when there are at most
four of them. -/
theorem pciPinsOwned_iff :
    PciPinsOwned fsccEnableAsync card ↔ card.numPorts ≤ 4 := by
  constructor
  · intro owned
    by_contra many
    exact not_pciPinsOwned_of_many pci (Nat.lt_of_not_le many) owned
  · intro few
    refine ⟨fun channel => 3 + channel, ?_, ?_⟩
    · intro left _ right _ same
      exact Nat.add_left_cancel same
    · intro state history reachable channel inRange
      exact reachable_pciPortShows pci few reachable inRange

end Overlap

/-- On the board of eight ports the pins are not owned. -/
theorem not_pciPinsOwned_fc2328 :
    ¬PciPinsOwned false (Card.ofDevice fc232_8Pci335Id 8) :=
  not_pciPinsOwned_of_many rfl (by decide)

theorem pciPinsOwned_fc2324 :
    PciPinsOwned false (Card.ofDevice fc232_4Pci335Id 4) :=
  (pciPinsOwned_iff rfl).mpr (by decide)

end SerialFc
