import SerialFc.Exar.PciConsistent
import SerialFc.Fscc.Consistent
import SerialFc.Interface.Footprint
import SerialFc.Interface.Ranges

/-! # What initialising a port leaves

Whatever the registers held before, a new port reports the defaults and its
shadow fields agree with its registers. On FSCC cards LCR does not come back:
the trigger setup switches the register window and leaves it switched.
-/

namespace SerialFc

/-! ## The line control register of Exar ports -/

def SparesLcr : Access → Prop
  | .iowrite8 _ offset _ => offset ≠ lcrOffset
  | _ => True

theorem write8_lcr (state : CardState) (type : CardType) (own : Nat)
    {offset : Nat} (notLcr : offset ≠ lcrOffset) (value : BitVec 8)
    (channel : Nat) :
    ((state.write8 type own offset value).uart channel).lcr =
      (state.uart channel).lcr := by
  have uart950 (uart : Uart) : (uart.write950 offset value).lcr = uart.lcr := by
    simp only [Uart.write950, if_neg notLcr]
    split_ifs <;> rfl
  have uartExar (uart : Uart) : (uart.writeExar offset value).lcr = uart.lcr := by
    simp only [Uart.writeExar, if_neg notLcr]
    split_ifs <;> rfl
  by_cases isOwn : channel = own
  · subst isOwn
    cases type with
    | fscc => simp [CardState.write8, uart950]
    | pci | pcie | unknown =>
        simp only [CardState.write8]
        split_ifs
        · rfl
        · simp [uartExar]
  · cases type with
    | fscc => simp [CardState.write8, isOwn]
    | pci | pcie | unknown =>
        simp only [CardState.write8]
        split_ifs
        · rfl
        · simp [isOwn]

theorem lcr_of_sparesLcr {type : CardType} {access : Access}
    (spares : SparesLcr access) (state : CardState) (channel : Nat) :
    (((cardMachine type).execute state access).2.uart channel).lcr =
      (state.uart channel).lcr := by
  cases access with
  | iowrite8 own offset value => exact write8_lcr state type own spares value channel
  | iowrite32 bar offset value => cases bar <;> rfl
  | _ => rfl

theorem Program.Performs.keeps_lcr {α : Type} {program : Driver α}
    (spares : program.Performs SparesLcr) (type : CardType) (state : CardState)
    (channel : Nat) :
    (((cardMachine type).run program state).2.uart channel).lcr =
      (state.uart channel).lcr := by
  apply (cardMachine type).run_preserves
    (fun after => (after.uart channel).lcr = (state.uart channel).lcr)
  · intro step member kept
    have spared := (cardMachine type).performs_steps spares state step member
    exact (lcr_of_sparesLcr spared _ _).trans kept
  · rfl

section Exar

variable {port : Port}
  (exar : fastcomGetCardType port = .pci ∨ fastcomGetCardType port = .pcie)
include exar

theorem set_sparesLcr (setting : Setting) (value : BitVec 32) :
    (setting.set port value).Performs SparesLcr := by
  cases setting with
  | rs485 =>
      rcases exar with type | type <;>
        simp [Setting.set, fastcomSetRs485, fastcomSetRs485Pci,
          fastcomSetRs485Pcie, type, ioread8, iowrite8, SparesLcr,
          mpiolvlOffset, lcrOffset, mcrOffset, uartExarFctr]
  | echoCancel =>
      rcases exar with type | type <;>
        simp [Setting.set, fastcomSetEchoCancel, fastcomSetEchoCancelPci,
          fastcomSetEchoCancelPcie, type, ioread8, iowrite8, SparesLcr,
          mpiolvlOffset, mpiolvlhOffset, lcrOffset]
  | termination =>
      rcases exar with type | type <;>
        simp [Setting.set, fastcomSetTermination, fastcomSetTerminationPcie,
          type, ioread8, iowrite8, SparesLcr, mpiolvlOffset, lcrOffset]
  | isochronous | externalTransmit | frameLength =>
      rcases exar with type | type <;>
        simp [Setting.set, fastcomSetIsochronous, fastcomSetExternalTransmit,
          fastcomSetFrameLength, type]
  | txTrigger | rxTrigger =>
      rcases exar with type | type <;>
        simp only [Setting.set, fastcomSetTxTrigger, fastcomSetRxTrigger,
          type] <;>
        apply storeIfSet_performs _ _ trivial <;>
        simp [fastcomSetTxTriggerPci, fastcomSetTxTriggerPcie,
          fastcomSetRxTriggerPci, fastcomSetRxTriggerPcie, setTriggerExar,
          iowrite8, SparesLcr, lcrOffset, uartExarTxtrg, uartExarRxtrg]
  | sampleRate =>
      rcases exar with type | type <;>
        simp only [Setting.set, fastcomSetSampleRate, type] <;>
        apply storeIfSet_performs _ _ trivial <;>
        simp [fastcomSetSampleRatePci, fastcomSetSampleRatePcie, ioread8,
          iowrite8, SparesLcr, lcrOffset, uartExar4xmode, uartExar8xmode]

theorem setAll_sparesLcr (settings : List (Setting × BitVec 32)) :
    (setAll port settings).Performs SparesLcr := by
  induction settings with
  | nil => trivial
  | cons first later induction =>
      apply Program.performs_bind (set_sparesLcr exar first.1 first.2)
      intro status
      exact induction

theorem serialfcPortNew_sparesLcr (fsccEnableAsync : Bool) :
    (serialfcPortNew fsccEnableAsync port).Performs SparesLcr := by
  unfold serialfcPortNew
  rw [setDefaults_eq]
  apply Program.performs_bind
  · rcases exar with type | type <;>
      simp [fastcomInitGpio, type, iowrite8, SparesLcr, mpioselOffset,
        mpioinvOffset, mpioselhOffset, lcrOffset]
  intro _
  apply Program.performs_bind
  · rcases exar with type | type <;>
      simp [fastcomInitTriggers, type, ioread8, iowrite8, SparesLcr, fcrOffset,
        uartExarFctr, lcrOffset]
  intro _
  have clock : (fastcomSetClockBitsPci port pci29MhzBits).Performs SparesLcr := by
    apply setClockBitsPci_performs port trivial
    intro value
    exact (show mpiolvlOffset ≠ lcrOffset by decide)
  have notFscc : fastcomGetCardType port ≠ .fscc := by
    rcases exar with type | type <;> simp [type]
  simp only [notFscc, and_false, if_false]
  have defaults : (do
      setAll port defaultSettings
      pure () : Driver Unit).Performs SparesLcr := by
    apply Program.performs_bind (setAll_sparesLcr exar _)
    intro _
    trivial
  rw [Program.performs_ite]
  constructor
  · intro _
    apply Program.performs_bind clock
    intro _
    exact defaults
  · intro _
    exact defaults

end Exar

/-! ## Defaults -/

def ShadowsHold (type : CardType) (state : CardState) (channel : Nat) : Prop :=
  match type with
  | .pci =>
      PciHolds state channel .txTrigger ∧ PciHolds state channel .rxTrigger ∧
        PciHolds state channel .sampleRate
  | .pcie => (state.pcieView channel).Shadowed
  | .fscc =>
      let indexed := (state.uart channel).indexed
      let fields := state.fields channel
      indexed acrOffset = fields.acr ∧
        (indexed ttlOffset).setWidth 32 = fields.txTrigger ∧
        (indexed rtlOffset).setWidth 32 = fields.rxTrigger ∧
        (indexed tcrOffset).setWidth 32 = fields.sampleRate
  | .unknown => True

/-- Every getter that the port has reports the default of its setting.
External transmit has none. -/
def ReportsDefaults (port : Port) (state : CardState) : Prop :=
  ∀ setting value, (setting, value) ∈ defaultSettings →
    setting.SupportedBy (fastcomGetCardType port)
      (state.firmwareRevision port.channel).toNat →
    ∀ before, ∃ next,
      port.card.machine.run (setting.get port before) state =
        (some (0, value), next)

theorem denote_default {setting : Setting} {value : BitVec 32}
    (isDefault : (setting, value) ∈ defaultSettings) :
    setting.denote value = value := by
  have kept : ∀ default ∈ defaultSettings,
      default.1.denote default.2 = default.2 := by
    decide
  exact kept _ isDefault

theorem default_inOperatingRange {setting : Setting} {value : BitVec 32}
    (isDefault : (setting, value) ∈ defaultSettings) {type : CardType}
    {firmware : Nat} (supported : setting.SupportedBy type firmware) :
    InOperatingRange type firmware value setting := by
  cases setting with
  | rs485 | echoCancel | termination => exact supported
  | externalTransmit => simp [defaultSettings] at isDefault
  | isochronous =>
      obtain rfl : value = defaultIsochronous := by
        simpa [defaultSettings] using isDefault
      exact ⟨supported, by decide, by decide⟩
  | frameLength =>
      obtain rfl : value = defaultFrameLength := by
        simpa [defaultSettings] using isDefault
      exact ⟨supported.1, supported.2, by decide, by decide⟩
  | txTrigger =>
      obtain rfl : value = defaultTxTriggerLevel := by
        simpa [defaultSettings] using isDefault
      cases type with
      | unknown => exact absurd rfl supported
      | pci | pcie | fscc => simp [InOperatingRange, defaultTxTriggerLevel]
  | rxTrigger =>
      obtain rfl : value = defaultRxTriggerLevel := by
        simpa [defaultSettings] using isDefault
      cases type with
      | unknown => exact absurd rfl supported
      | pci | pcie | fscc => simp [InOperatingRange, defaultRxTriggerLevel]
  | sampleRate =>
      obtain rfl : value = defaultSampleRate := by
        simpa [defaultSettings] using isDefault
      cases type with
      | unknown => exact absurd rfl supported
      | pci | pcie | fscc => simp [InOperatingRange, defaultSampleRate]

/-! ## PCI ports -/

/-- A set of `changed` may show in what is reported for `setting`: the driver
enable of channel 4 is the echo cancel pin. -/
def Disturbs (changed setting : Setting) : Prop :=
  changed = setting ∨ changed = .rs485 ∧ setting = .echoCancel

instance (changed setting : Setting) : Decidable (Disturbs changed setting) :=
  inferInstanceAs (Decidable (_ ∨ _))

section Pci

variable {state : CardState} {port : Port} {setting : Setting}

theorem getPci_applyPci_of_quiet {changed : Setting}
    (quiet : ¬Disturbs changed setting) (value before : BitVec 32) :
    (state.applyPci port value changed).getPci port.channel before setting =
      state.getPci port.channel before setting := by
  have foreign : ¬(changed = setting ∧ port.channel = port.channel) :=
    fun same => quiet (.inl same.1)
  cases setting with
  | rs485 =>
      have fctr : ((state.applyPci port value changed).uart port.channel).plain
          uartExarFctr = (state.uart port.channel).plain uartExarFctr := by
        cases changed with
        | rs485 => exact absurd (.inl rfl) quiet
        | _ =>
            simp [CardState.applyPci, CardState.setPlain, CardState.setConfig,
              CardState.setField, uartExarFctr, uartExarTxtrg, uartExarRxtrg]
      simp only [CardState.getPci, fctr]
  | echoCancel =>
      have pins : (state.applyPci port value changed).config mpiolvlOffset =
          state.config mpiolvlOffset := by
        cases changed with
        | rs485 => exact absurd (.inr ⟨rfl, rfl⟩) quiet
        | echoCancel => exact absurd (.inl rfl) quiet
        | _ =>
            simp [CardState.applyPci, CardState.setPlain, CardState.setConfig,
              CardState.setField, uartExar8xmode, mpiolvlOffset]
      simp only [CardState.getPci, pins]
  | termination | isochronous | externalTransmit | frameLength => rfl
  | txTrigger =>
      simp only [CardState.getPci, (applyPci_txTrigger_of_ne foreign).2]
  | rxTrigger =>
      simp only [CardState.getPci, (applyPci_rxTrigger_of_ne foreign).2]
  | sampleRate =>
      simp only [CardState.getPci, applyPci_sampleRate_of_ne foreign]

theorem getPci_settleAll_of_quiet {settings : List (Setting × BitVec 32)}
    (quiet : ∀ later ∈ settings, ¬Disturbs later.1 setting)
    (before : BitVec 32) :
    (settings.foldl
        (fun state default => state.settlePci port default.2 default.1)
        state).getPci port.channel before setting =
      state.getPci port.channel before setting := by
  induction settings generalizing state with
  | nil => rfl
  | cons first later induction =>
      rw [List.foldl_cons, induction fun default member =>
        quiet default (List.mem_cons_of_mem _ member), CardState.settlePci]
      split
      · exact getPci_applyPci_of_quiet (quiet first List.mem_cons_self) _ before
      · rfl

theorem getPci_settleAll {settings : List (Setting × BitVec 32)}
    (ordered : settings.Pairwise fun early late => ¬Disturbs late.1 early.1)
    {value : BitVec 32} (member : (setting, value) ∈ settings)
    (accepted : PciAccepts value setting) (before : BitVec 32) :
    (settings.foldl
        (fun state default => state.settlePci port default.2 default.1)
        state).getPci port.channel before setting =
      (0, setting.denote value) := by
  induction settings generalizing state with
  | nil => cases member
  | cons first later induction =>
      rcases List.pairwise_cons.mp ordered with ⟨quiet, laterOrdered⟩
      rcases List.mem_cons.mp member with rfl | isLater
      · rw [List.foldl_cons, getPci_settleAll_of_quiet quiet,
          CardState.settlePci, if_pos accepted]
        exact getPci_applyPci accepted
      · exact induction laterOrdered isLater

end Pci

/-! ## Views -/

theorem PcieView.get_initialised (view : PcieView) {setting : Setting}
    {value : BitVec 32} (isDefault : (setting, value) ∈ defaultSettings)
    (accepted : PcieView.Accepts value setting) (before : BitVec 32) :
    view.initialised.get before setting = (0, value) := by
  rw [← denote_default isDefault]
  exact @SettingsModel.get_settleAll _ PcieView.model (fun _ => True)
    (fun _ _ _ _ _ => trivial) defaultSettings (by decide) setting value
    isDefault (fun _ _ => accepted) _ trivial before

namespace FsccView

theorem set_firmwareRevision (view : FsccView) (value : BitVec 32)
    (setting : Setting) :
    (view.set value setting).firmwareRevision = view.firmwareRevision := by
  cases setting <;> rfl

theorem get_initialised (view : FsccView) {setting : Setting}
    {value : BitVec 32} (isDefault : (setting, value) ∈ defaultSettings)
    (supported : setting.SupportedBy .fscc view.firmwareRevision.toNat)
    (before : BitVec 32) : view.initialised.get before setting = (0, value) := by
  rw [← denote_default isDefault]
  apply @SettingsModel.get_settleAll _ FsccView.model
    (fun other => other.firmwareRevision = view.firmwareRevision)
    (fun other value setting _ same =>
      (other.set_firmwareRevision value setting).trans same)
    defaultSettings (by decide) setting value isDefault
  · intro other same
    apply (fsccAccepts_iff value setting other).mpr
    rw [same]
    exact default_inOperatingRange isDefault supported
  · rfl

theorem initialised_rest (view : FsccView) :
    view.initialised.lcr = 0xbf ∧
      view.initialised.firmwareRevision = view.firmwareRevision := by
  unfold initialised
  apply @SettingsModel.settleAll_keeps _ FsccView.model
    (fun other => other.lcr = 0xbf ∧
      other.firmwareRevision = view.firmwareRevision)
  · intro other value setting _ same
    exact ⟨(other.set_lcr value setting).trans same.1,
      (other.set_firmwareRevision value setting).trans same.2⟩
  · exact ⟨rfl, rfl⟩

theorem Consistent.shadows {view : FsccView} (consistent : view.Consistent) :
    view.indexed acrOffset = view.fields.acr ∧
      (view.indexed ttlOffset).setWidth 32 = view.fields.txTrigger ∧
      (view.indexed rtlOffset).setWidth 32 = view.fields.rxTrigger ∧
      (view.indexed tcrOffset).setWidth 32 = view.fields.sampleRate := by
  have txTrigger := consistent.txTrigger
  have rxTrigger := consistent.rxTrigger
  have sampleRate := consistent.sampleRate
  refine ⟨consistent.synced.hardware, ?_, ?_, ?_⟩
  · rw [txTrigger.1]
    bv_omega
  · rw [rxTrigger.1]
    bv_omega
  · rw [sampleRate.1]
    bv_omega

end FsccView

/-! ## All families -/

section Families

variable {port : Port} (fsccEnableAsync : Bool) (state : CardState)

theorem portNew_pci (pci : fastcomGetCardType port = .pci)
    (small : port.channel < 8) :
    ∃ next, port.card.machine.run (serialfcPortNew fsccEnableAsync port) state =
        (some (), next) ∧
      ReportsDefaults port next ∧
      ShadowsHold (fastcomGetCardType port) next port.channel := by
  have machineEq := machine_of_cardType pci
  rcases run_serialfcPortNew_pci pci fsccEnableAsync state with
    ⟨armed, _, _, _, _, run⟩
  rw [← machineEq] at run
  refine ⟨_, run, ?_, ?_⟩
  · intro setting value isDefault supported before
    rw [pci] at supported
    have accepted := (pciAccepts_iff _ _ _).mpr
      (default_inOperatingRange isDefault supported)
    have answer := @getPci_settleAll armed port setting defaultSettings
      (by decide) value isDefault accepted before
    rw [denote_default isDefault] at answer
    rw [machineEq, run_get_pci pci, answer]
    exact ⟨_, rfl⟩
  · rw [pci]
    exact ⟨defaults_pciHolds small armed .txTrigger,
      defaults_pciHolds small armed .rxTrigger,
      defaults_pciHolds small armed .sampleRate⟩

theorem portNew_pcie (pcie : fastcomGetCardType port = .pcie)
    (small : port.channel < 8) :
    ∃ next, port.card.machine.run (serialfcPortNew fsccEnableAsync port) state =
        (some (), next) ∧
      ReportsDefaults port next ∧
      ShadowsHold (fastcomGetCardType port) next port.channel := by
  have machineEq := machine_of_cardType pcie
  rcases run_serialfcPortNew_pcie pcie state small fsccEnableAsync with
    ⟨next, run, own, _⟩
  rw [← machineEq] at run
  refine ⟨next, run, ?_, ?_⟩
  · intro setting value isDefault supported before
    rw [pcie] at supported
    have accepted := (pcieAccepts_iff _ _ _).mpr
      (default_inOperatingRange isDefault supported)
    rw [machineEq, run_get_pcie pcie, own,
      PcieView.get_initialised _ isDefault accepted]
    exact ⟨_, rfl⟩
  · rw [pcie, ShadowsHold, own]
    exact PcieView.initialised_shadowed _

theorem portNew_fscc (fscc : fastcomGetCardType port = .fscc)
    (small : port.channel < 2) :
    ∃ next, port.card.machine.run (serialfcPortNew fsccEnableAsync port) state =
        (some (), next) ∧
      ReportsDefaults port next ∧
      ShadowsHold (fastcomGetCardType port) next port.channel ∧
      (next.uart port.channel).lcr = 0xbf := by
  have machineEq := machine_of_cardType fscc
  rcases run_serialfcPortNew_fscc fscc state small fsccEnableAsync with
    ⟨next, run, own, _⟩
  rw [← machineEq] at run
  have rest := (state.fsccView port.channel).initialised_rest
  have consistent := (state.fsccView port.channel).initialised_consistent
  rw [← own] at rest consistent
  refine ⟨next, run, ?_, ?_, rest.1⟩
  · intro setting value isDefault supported before
    rw [fscc, show next.firmwareRevision port.channel = _ from rest.2]
      at supported
    rcases run_get_of_synced fscc next consistent.synced before setting with
      ⟨index, runGet⟩
    rw [machineEq, runGet, own, FsccView.get_initialised _ isDefault supported]
    exact ⟨_, rfl⟩
  · rw [fscc]
    exact consistent.shadows

end Families

/-- Initialising a port ends with the defaults reported, the shadow fields in
agreement with the registers, and LCR as it was. -/
structure StartsRight (port : Port) (before after : CardState) : Prop where
  reports : ReportsDefaults port after
  shadows : ShadowsHold (fastcomGetCardType port) after port.channel
  line : (after.uart port.channel).lcr = (before.uart port.channel).lcr

def InitialisesPort (fsccEnableAsync : Bool) (port : Port) (before : CardState) :
    Prop :=
  ∃ after, port.card.machine.run (serialfcPortNew fsccEnableAsync port) before =
    (some (), after) ∧ StartsRight port before after

section Initialises

variable {port : Port} {fsccEnableAsync : Bool} {before : CardState}

theorem initialisesPort_exar
    (exar : fastcomGetCardType port = .pci ∨ fastcomGetCardType port = .pcie)
    (small : port.channel < 8) : InitialisesPort fsccEnableAsync port before := by
  have line := (serialfcPortNew_sparesLcr exar fsccEnableAsync).keeps_lcr
    (fastcomGetCardType port) before port.channel
  have starts : ∃ next,
      port.card.machine.run (serialfcPortNew fsccEnableAsync port) before =
        (some (), next) ∧
      ReportsDefaults port next ∧
      ShadowsHold (fastcomGetCardType port) next port.channel := by
    rcases exar with pci | pcie
    · exact portNew_pci fsccEnableAsync before pci small
    · exact portNew_pcie fsccEnableAsync before pcie small
  rcases starts with ⟨next, run, reports, shadows⟩
  change ((port.card.machine.run _ before).2.uart port.channel).lcr = _ at line
  rw [run] at line
  exact ⟨next, run, reports, shadows, line⟩

theorem initialisesPort_fscc_iff (fscc : fastcomGetCardType port = .fscc)
    (small : port.channel < 2) :
    InitialisesPort fsccEnableAsync port before ↔
      (before.uart port.channel).lcr = 0xbf := by
  rcases portNew_fscc fsccEnableAsync before fscc small with
    ⟨next, run, reports, shadows, left⟩
  constructor
  · intro initialises
    rcases initialises with ⟨after, afterRun, right⟩
    rw [run] at afterRun
    obtain rfl : next = after := (Prod.mk.inj afterRun).2
    exact right.line.symm.trans left
  · intro already
    exact ⟨next, run, reports, shadows, left.trans already.symm⟩

end Initialises

/-- A port of any board starts right but for LCR: that of an FSCC port is left
at 0xbf, and is as it was only if it was that before. -/
theorem initialisesPort_iff {port : Port}
    (board : boardNumPorts port.card.pciDev.device = some port.card.numPorts)
    (isPort : port.channel < port.card.numPorts) (fsccEnableAsync : Bool)
    (before : CardState) :
    InitialisesPort fsccEnableAsync port before ↔
      (fastcomGetCardType port = .fscc →
        (before.uart port.channel).lcr = 0xbf) := by
  have range := boardNumPorts_range port.card board
  cases type : fastcomGetCardType port with
  | pci =>
      have ports := range.1 type
      exact iff_of_true (initialisesPort_exar (.inl type) (by omega)) nofun
  | pcie =>
      have ports := range.2.1 type
      exact iff_of_true (initialisesPort_exar (.inr type) (by omega)) nofun
  | fscc =>
      have ports := range.2.2 type
      rw [initialisesPort_fscc_iff type (by omega)]
      exact ⟨fun same _ => same, fun same => same rfl⟩
  | unknown => exact absurd type (fastcomGetCardType2_known board)

/-- Port 3 of a PCIe card. -/
theorem initialisesPort_pcie :
    InitialisesPort true ⟨Card.ofDevice fc422_4PcieId 4, 3⟩ .blank := by
  apply (initialisesPort_iff (by decide) (by decide) true .blank).mpr
  decide

/-- LCR of an FSCC port is zero before and 0xbf afterwards. -/
theorem not_initialisesPort :
    ¬InitialisesPort false ⟨Card.ofDevice fsccId 2, 0⟩ .blank := by
  intro initialises
  have lcr := (initialisesPort_fscc_iff (by decide) (by decide)).mp initialises
  exact absurd lcr (by decide)

end SerialFc
