import SerialFc.Abstract.Settings
import SerialFc.Exar.BaudDivisor
import SerialFc.Interface.Defaults

/-! # Each family keeps the settings of its card

One call on a card of a family answers as the settings do, and leaves the card
with the settings that follow. What a card reports depends on its family: on
the PCI family on the whole card, on the others on the view of one port.
-/

namespace SerialFc

/-! ## Settings one by one -/

namespace CardSettings

variable {type : CardType} {settings : CardSettings} {channel other : Nat}
  {setting kind : Setting}

theorem get_set_same
    (supported : setting.SupportedBy type (settings.firmware channel))
    (value before : BitVec 32) :
    (settings.set type channel value setting).get type channel before setting =
      (0, setting.denote value) := by
  have kept : (settings.set type channel value setting).firmware channel =
      settings.firmware channel := rfl
  rw [get, kept, if_pos supported]
  simp [set]

theorem get_set_of_ne (notPci : type ≠ .pci)
    (foreign : ¬(kind = setting ∧ other = channel)) (value before : BitVec 32) :
    (settings.set type channel value setting).get type other before kind =
      settings.get type other before kind := by
  simp [get, set, notPci, foreign]

end CardSettings

/-! ## Refused arguments -/

section Refusals

variable {port : Port} {value : BitVec 32} {setting : Setting} {type : CardType}
  (isType : fastcomGetCardType port = type) (state : CardState)
include isType

theorem run_set_unsupported (known : type ≠ .unknown)
    (unsupported : ¬setting.SupportedBy type 0x20) :
    (cardMachine type).run (setting.set port value) state =
      (some (-eprotonosupport), state) := by
  cases setting with
  | rs485 | echoCancel | txTrigger | rxTrigger | sampleRate =>
      exact absurd known unsupported
  | termination =>
      cases type with
      | pcie => exact absurd rfl unsupported
      | _ => simp [Setting.set, fastcomSetTermination, isType]
  | isochronous =>
      cases type with
      | fscc => exact absurd rfl unsupported
      | _ => simp [Setting.set, fastcomSetIsochronous, isType]
  | externalTransmit =>
      cases type with
      | fscc => exact absurd rfl unsupported
      | _ => simp [Setting.set, fastcomSetExternalTransmit, isType]
  | frameLength =>
      cases type with
      | fscc => exact absurd ⟨rfl, Nat.le_refl _⟩ unsupported
      | _ => simp [Setting.set, fastcomSetFrameLength, isType]

theorem run_set_outOfRange (supported : setting.SupportedBy type 0x20)
    (outside : ¬InOperatingRange type 0x20 value setting) :
    (cardMachine type).run (setting.set port value) state =
      (some (-einval), state) := by
  have failed : (-einval : Int) ≠ 0 := by decide
  cases setting with
  | rs485 | echoCancel | termination => exact absurd supported outside
  | isochronous =>
      obtain rfl : type = .fscc := supported
      have large : value.toInt > 10 ∨ value.toInt < -1 := by
        simp only [InOperatingRange, true_and] at outside
        omega
      simp only [Setting.set, fastcomSetIsochronous, isType,
        fastcomSetIsochronousFscc, if_pos large]
      rfl
  | externalTransmit =>
      obtain rfl : type = .fscc := supported
      have large : value > 8191 := by
        simp only [InOperatingRange, true_and] at outside
        bv_omega
      simp only [Setting.set, fastcomSetExternalTransmit, isType,
        fastcomSetExternalTransmitFscc, if_pos large]
      rfl
  | frameLength =>
      obtain rfl : type = .fscc := supported.1
      have large : value = 0 ∨ value > 256 := by
        simp only [InOperatingRange, true_and] at outside
        bv_omega
      simp only [Setting.set, fastcomSetFrameLength, isType,
        fastcomSetFrameLengthFscc, if_pos large]
      rfl
  | txTrigger | rxTrigger =>
      cases type with
      | unknown => exact absurd rfl supported
      | pci =>
          have large : value > 64 := by
            simp only [InOperatingRange] at outside
            bv_omega
          simp only [Setting.set, fastcomSetTxTrigger, fastcomSetRxTrigger,
            isType, fastcomSetTxTriggerPci, fastcomSetRxTriggerPci,
            setTriggerExar, if_pos large, Machine.run_bind, Machine.run_pure,
            if_neg failed]
      | pcie =>
          have large : value > 255 := by
            simp only [InOperatingRange] at outside
            bv_omega
          simp only [Setting.set, fastcomSetTxTrigger, fastcomSetRxTrigger,
            isType, fastcomSetTxTriggerPcie, fastcomSetRxTriggerPcie,
            setTriggerExar, if_pos large, Machine.run_bind, Machine.run_pure,
            if_neg failed]
      | fscc =>
          have large : value > 127 := by
            simp only [InOperatingRange] at outside
            bv_omega
          simp only [Setting.set, fastcomSetTxTrigger, fastcomSetRxTrigger,
            isType, fastcomSetTxTriggerFscc, fastcomSetRxTriggerFscc,
            setTriggerFscc, if_pos large, Machine.run_bind, Machine.run_pure,
            if_neg failed]
  | sampleRate =>
      cases type with
      | unknown => exact absurd rfl supported
      | pci =>
          have other : value ≠ 8 ∧ value ≠ 16 := by
            simp only [InOperatingRange] at outside
            bv_omega
          simp only [Setting.set, fastcomSetSampleRate, isType,
            fastcomSetSampleRatePci, if_pos other, Machine.run_bind,
            Machine.run_pure, if_neg failed]
      | pcie =>
          have other : value ≠ 4 ∧ value ≠ 8 ∧ value ≠ 16 := by
            simp only [InOperatingRange] at outside
            bv_omega
          simp only [Setting.set, fastcomSetSampleRate, isType,
            fastcomSetSampleRatePcie, if_pos other, Machine.run_bind,
            Machine.run_pure, if_neg failed]
      | fscc =>
          have other : value < 4 ∨ value > 16 := by
            simp only [InOperatingRange] at outside
            bv_omega
          simp only [Setting.set, fastcomSetSampleRate, isType,
            fastcomSetSampleRateFscc, if_pos other, Machine.run_bind,
            Machine.run_pure, if_neg failed]

/-- What an old firmware refuses, after its revision was read, is a frame
length. -/
theorem run_set_oldFirmware
    (refused : ¬InOperatingRange type
      (state.firmwareRevision port.channel).toNat value setting)
    (inRange : InOperatingRange type 0x20 value setting) :
    (cardMachine type).run (setting.set port value) state =
      (some (-eprotonosupport), state) := by
  cases setting with
  | frameLength =>
      rcases inRange with ⟨rfl, _, least, greatest⟩
      have within : ¬(value = 0 ∨ value > 256) := by
        bv_omega
      have old : state.firmwareRevision port.channel < 0x20 := by
        rw [BitVec.lt_def]
        by_contra recent
        exact refused ⟨rfl, Nat.le_of_not_lt recent, least, greatest⟩
      simp only [Setting.set, fastcomSetFrameLength, isType,
        fastcomSetFrameLengthFscc, if_neg within, Machine.run_bind,
        run_fsccGetFrev, if_pos old, Machine.run_pure]
  | _ => exact absurd inRange refused

theorem run_set_refused (known : type ≠ .unknown)
    (refused : ¬InOperatingRange type
      (state.firmwareRevision port.channel).toNat value setting) :
    (cardMachine type).run (setting.set port value) state =
      (some (setting.refusal type value), state) := by
  unfold Setting.refusal
  by_cases supported : setting.SupportedBy type 0x20
  · by_cases inRange : InOperatingRange type 0x20 value setting
    · rw [if_neg (fun both => both.2 inRange)]
      exact run_set_oldFirmware isType state refused inRange
    · rw [if_pos ⟨supported, inRange⟩]
      exact run_set_outOfRange isType state supported inRange
  · rw [if_neg (fun both => supported both.1)]
    exact run_set_unsupported isType state known supported

end Refusals

/-! ## One call -/

def ComesTo (type : CardType) (reflects : CardState → CardSettings → Prop)
    (call : Driver Reply) (state : CardState) :
    Option (Reply × CardSettings) → Prop
  | none => ((cardMachine type).run call state).1 = none
  | some (reply, settings) =>
      ∃ next, (cardMachine type).run call state = (some reply, next) ∧
        reflects next settings

/-- Whether an argument is in range depends on the firmware on FSCC cards only. -/
theorem inOperatingRange_firmware {type : CardType} (exar : type ≠ .fscc)
    (firmware other : Nat) (value : BitVec 32) (setting : Setting) :
    InOperatingRange type firmware value setting ↔
      InOperatingRange type other value setting := by
  cases setting with
  | frameLength => exact iff_of_false (fun both => exar both.1) fun both => exar both.1
  | _ => exact Iff.rfl

theorem comesTo_set {type : CardType} {reflects : CardState → CardSettings → Prop}
    {port : Port} {state : CardState} {settings : CardSettings} {value : BitVec 32}
    {setting : Setting} (isType : fastcomGetCardType port = type)
    (known : type ≠ .unknown) (reflected : reflects state settings)
    (sameRange : InOperatingRange type (settings.firmware port.channel) value setting ↔
      InOperatingRange type (state.firmwareRevision port.channel).toNat value setting)
    (sets : InOperatingRange type
        (state.firmwareRevision port.channel).toNat value setting →
      ∃ next, (cardMachine type).run (setting.set port value) state =
          (some 0, next) ∧
        reflects next (settings.set type port.channel value setting)) :
    ComesTo type reflects ((Operation.set setting value).program port) state
      (settings.answer type port.channel (.set setting value)) := by
  by_cases inRange : InOperatingRange type
    (state.firmwareRevision port.channel).toNat value setting
  · rcases sets inRange with ⟨next, run, after⟩
    simp only [CardSettings.answer, Setting.status, if_pos (sameRange.mpr inRange),
      if_true]
    refine ⟨next, ?_, after⟩
    rw [Operation.program, Machine.run_bind, run]
    rfl
  · have outside := fun within => inRange (sameRange.mp within)
    simp only [CardSettings.answer, Setting.status, if_neg outside,
      if_neg (Setting.refusal_ne_zero type value setting)]
    refine ⟨state, ?_, reflected⟩
    rw [Operation.program, Machine.run_bind,
      run_set_refused isType state known inRange]
    rfl

/-! ## PCI cards -/

def PciReflects (ports : Nat) (state : CardState) (settings : CardSettings) :
    Prop :=
  ∀ channel < ports, ∀ before setting,
    state.getPci channel before setting = settings.get .pci channel before setting

section Pci

variable {ports : Nat} {state : CardState} {settings : CardSettings} {port : Port}
  {value : BitVec 32} {setting : Setting}

/-- The driver enable of a channel is the echo cancel pin for channel 4 only. -/
theorem echoPin_applyPci_rs485 (state : CardState) (port : Port)
    (value : BitVec 32) :
    anySet ((state.applyPci port value .rs485).config mpiolvlOffset) 0x80 =
      if port.channel = 4 then decide (value = 0)
      else anySet (state.config mpiolvlOffset) 0x80 := by
  have pins : (state.applyPci port value .rs485).config mpiolvlOffset =
      switchBits (decide (value = 0)) (0x8#8 <<< port.channel)
        (state.config mpiolvlOffset) := by
    simp [CardState.applyPci, CardState.setPlain, CardState.setConfig]
  rw [pins]
  split
  case isTrue fifth =>
    rw [fifth]
    exact anySet_switchBits _ (show 0x8#8 <<< 4 ≠ 0#8 by decide) _
  case isFalse other =>
    apply anySet_switchBits_of_disjoint
    by_cases low : port.channel < 4
    · exact transmitterMask_echo low
    · rw [transmitterMask_eq_zero (by omega)]
      rfl

theorem getPci_echoCancel_applyPci
    (reflects : PciReflects ports state settings) (accepted : PciAccepts value setting)
    {other : Nat} (inRange : other < ports) (before : BitVec 32) :
    (state.applyPci port value setting).getPci other before .echoCancel =
      (settings.set .pci port.channel value setting).get .pci other before
        .echoCancel := by
  have reported := reflects other inRange before .echoCancel
  by_cases disturbs : Disturbs setting .echoCancel
  · rcases disturbs with rfl | ⟨rfl, _⟩
    · change (state.applyPci port value .echoCancel).getPci port.channel before
        .echoCancel = _
      rw [getPci_applyPci accepted]
      simp [CardSettings.get, CardSettings.set, Setting.SupportedBy]
    · simp only [CardState.getPci, echoPin_applyPci_rs485]
      by_cases fifth : port.channel = 4
      · simp [CardSettings.get, CardSettings.set, Setting.SupportedBy, fifth]
      · simpa [CardSettings.get, CardSettings.set, Setting.SupportedBy, fifth,
          CardState.getPci] using reported
  · have quiet := @getPci_applyPci_of_quiet state port .echoCancel setting disturbs
      value before
    rcases not_or.mp disturbs with ⟨notEcho, notRs485⟩
    have kept : (settings.set .pci port.channel value setting).get .pci other before
        .echoCancel = settings.get .pci other before .echoCancel := by
      have isOther : Setting.echoCancel ≠ setting := fun same => notEcho same.symm
      have notPin : setting ≠ .rs485 := fun same => notRs485 ⟨same, rfl⟩
      simp [CardSettings.get, CardSettings.set, isOther, notPin]
    rw [kept, ← reported]
    exact quiet

theorem getPci_applyPci_of_ne {other : Nat} (different : other ≠ port.channel)
    {kind : Setting} (notEcho : kind ≠ .echoCancel) (before : BitVec 32) :
    (state.applyPci port value setting).getPci other before kind =
      state.getPci other before kind := by
  have framed : (state.applyPci port value setting).uart other = state.uart other ∧
      (state.applyPci port value setting).fields other = state.fields other :=
    applyPci_of_ne different setting
  cases kind with
  | echoCancel => exact absurd rfl notEcho
  | _ => simp only [CardState.getPci, framed]

theorem PciReflects.set (reflects : PciReflects ports state settings)
    (accepted : PciAccepts value setting) (port : Port) :
    PciReflects ports (state.applyPci port value setting)
      (settings.set .pci port.channel value setting) := by
  intro other inRange before kind
  by_cases isEcho : kind = .echoCancel
  · subst isEcho
    exact getPci_echoCancel_applyPci reflects accepted inRange before
  have kept : ¬(kind = setting ∧ other = port.channel) →
      (settings.set .pci port.channel value setting).get .pci other before kind =
        settings.get .pci other before kind := by
    intro foreign
    simp [CardSettings.get, CardSettings.set, foreign, isEcho]
  by_cases own : other = port.channel
  · subst own
    by_cases same : kind = setting
    · subst same
      have supported : kind.SupportedBy .pci (settings.firmware port.channel) :=
        supported_of_inOperatingRange ((pciAccepts_iff _ _ _).mp accepted)
      rw [getPci_applyPci accepted, CardSettings.get_set_same supported]
    · have quiet : ¬Disturbs setting kind := by
        rintro (isSame | ⟨_, echo⟩)
        · exact same isSame.symm
        · exact isEcho echo
      rw [kept (fun both => same both.1), getPci_applyPci_of_quiet quiet]
      exact reflects _ inRange before kind
  · rw [kept (fun both => own both.2), ← reflects other inRange before kind]
    exact getPci_applyPci_of_ne own isEcho before

theorem comesTo_pci (pci : fastcomGetCardType port = .pci)
    (reflects : PciReflects ports state settings) (inRange : port.channel < ports)
    (operation : Operation) :
    ComesTo .pci (PciReflects ports) (operation.program port) state
      (settings.answer .pci port.channel operation) := by
  have notFscc : CardType.pci ≠ .fscc := by decide
  cases operation with
  | set setting value =>
      apply comesTo_set pci (by decide) reflects
        (inOperatingRange_firmware notFscc _ _ value setting)
      intro accepted
      have accepts := (pciAccepts_iff _ _ _).mpr accepted
      exact ⟨_, run_set_pci_of_accepts pci state value setting accepts,
        reflects.set accepts port⟩
  | get setting before =>
      refine ⟨state, ?_, reflects⟩
      rw [Operation.program, Machine.run_bind, run_get_pci pci state before setting,
        reflects _ inRange]
      rfl
  | setClockBits clockData allocated =>
      refine ⟨state, ?_, reflects⟩
      simp only [Operation.program, fastcomSetClockBits, pci, Machine.run_bind,
        run_setClockBitsPci]
      rfl
  | enableAsyncMode =>
      refine ⟨state, ?_, reflects⟩
      simp only [Operation.program, fsccEnableAsyncMode, pci, if_pos notFscc,
        if_neg notFscc]
      rfl
  | disableAsyncMode =>
      refine ⟨state, ?_, reflects⟩
      simp only [Operation.program, fsccDisableAsyncMode, pci, if_pos notFscc,
        if_neg notFscc]
      rfl
  | setBaudRate value =>
      refine ⟨state, ?_, reflects⟩
      simp only [Operation.program, fastcomSetBaudRate, pci]
      rfl
  | getBaudRate before =>
      refine ⟨state, ?_, reflects⟩
      simp only [Operation.program, fastcomGetBaudRate, pci]
      rfl

end Pci

/-! ## Cards with independent ports -/

section Views

variable {View : Type} (model : SettingsModel View) (type : CardType)

def ViewReports (view : View) (settings : CardSettings) (channel : Nat) : Prop :=
  ∀ before setting,
    model.get view before setting = settings.get type channel before setting

variable {model type} {view : CardState → Nat → View} {state next : CardState}
  {settings : CardSettings} {channel other : Nat} {value : BitVec 32}
  {setting : Setting}

theorem ViewReports.set (notPci : type ≠ .pci)
    (reports : ViewReports model type (view state other) settings other)
    (accepted : model.Accepts (view state channel) value setting)
    (supported : setting.SupportedBy type (settings.firmware channel))
    (own : view next channel = model.set (view state channel) value setting)
    (others : ∀ other ≠ channel, view next other = view state other) :
    ViewReports model type (view next other)
      (settings.set type channel value setting) other := by
  intro before kind
  by_cases foreign : kind = setting ∧ other = channel
  · rcases foreign with ⟨rfl, rfl⟩
    rw [own, model.getSetSame _ _ _ _ accepted, CardSettings.get_set_same supported]
  · rw [CardSettings.get_set_of_ne notPci foreign, ← reports before kind]
    by_cases isOwn : other = channel
    · subst isOwn
      have different : setting ≠ kind := fun same => foreign ⟨same.symm, rfl⟩
      rw [own, model.getSetOfNe _ _ _ _ _ different]
    · rw [others other isOwn]

end Views

/-! ## PCIe cards -/

structure PciePortReflects (state : CardState) (settings : CardSettings)
    (channel : Nat) : Prop where
  shadowed : (state.pcieView channel).Shadowed
  reports : ViewReports PcieView.model .pcie (state.pcieView channel) settings channel
  divisor : (latchedDivisor (state.uart channel).banked).toNat =
    settings.divisor channel

def PcieReflects (ports : Nat) (state : CardState) (settings : CardSettings) :
    Prop :=
  ∀ channel < ports, PciePortReflects state settings channel

section Pcie

variable {ports : Nat} {state : CardState} {settings : CardSettings} {port : Port}

theorem banked_applyPcie (state : CardState) (port : Port) (value : BitVec 32)
    (setting : Setting) (channel : Nat) :
    ((state.applyPcie port value setting).uart channel).banked =
      (state.uart channel).banked := by
  by_cases own : channel = port.channel
  · subst own
    cases setting <;>
      simp [CardState.applyPcie, CardState.setPlain, CardState.setConfig,
        CardState.setField]
  · cases setting <;>
      simp [CardState.applyPcie, CardState.setPlain, CardState.setConfig,
        CardState.setField, own]

theorem pcieView_setDivisor (state : CardState) (channel other : Nat)
    (divisor : BitVec 32) :
    (state.setDivisor channel divisor).pcieView other = state.pcieView other := by
  by_cases own : other = channel
  · subst own
    simp [CardState.setDivisor, CardState.pcieView]
  · simp [CardState.setDivisor, CardState.pcieView, own]

theorem PcieReflects.set (reflects : PcieReflects ports state settings)
    (few : ports ≤ 8) (inRange : port.channel < ports) {value : BitVec 32}
    {setting : Setting} (accepted : PcieView.Accepts value setting) :
    PcieReflects ports (state.applyPcie port value setting)
      (settings.set .pcie port.channel value setting) := by
  intro other otherInRange
  have before := reflects other otherInRange
  have small : port.channel < 8 := by
    omega
  have own := pcieView_applyPcie_self state port value small setting
  have others : ∀ other ≠ port.channel,
      (state.applyPcie port value setting).pcieView other = state.pcieView other :=
    fun other different => pcieView_applyPcie_of_ne state port value different setting
  have supported : setting.SupportedBy .pcie (settings.firmware port.channel) :=
    supported_of_inOperatingRange ((pcieAccepts_iff _ _ _).mp accepted)
  refine ⟨?_, before.reports.set (by decide) accepted supported own others, ?_⟩
  · by_cases isOwn : other = port.channel
    · subst isOwn
      rw [own]
      exact before.shadowed.set value setting accepted
    · rw [others other isOwn]
      exact before.shadowed
  · rw [banked_applyPcie]
    exact before.divisor

theorem PciePortReflects.sampleRate {channel : Nat}
    (reflects : PciePortReflects state settings channel) :
    (state.fields channel).sampleRate = settings.value channel .sampleRate := by
  have reported := reflects.reports 0 .sampleRate
  simpa [PcieView.model, PcieView.get, CardState.pcieView, CardSettings.get,
    Setting.SupportedBy] using reported

theorem PcieReflects.setDivisor (reflects : PcieReflects ports state settings)
    (channel : Nat) (divisor : BitVec 32) :
    PcieReflects ports (state.setDivisor channel divisor)
      { settings with
        divisor := Function.update settings.divisor channel
          (divisor.toNat % 0x100000) } := by
  intro other inRange
  rcases reflects other inRange with ⟨shadowed, reports, latched⟩
  rw [← pcieView_setDivisor state channel other divisor] at shadowed reports
  refine ⟨shadowed, reports, ?_⟩
  by_cases own : other = channel
  · subst own
    have stored := toNat_latchedDivisor_storeDivisor (state.uart other).banked divisor
    simpa [CardState.setDivisor] using stored
  · simpa [CardState.setDivisor, own] using latched

theorem comesTo_setBaudRate (pcie : fastcomGetCardType port = .pcie)
    (reflects : PcieReflects ports state settings) (inRange : port.channel < ports)
    (value : BitVec 64) :
    ComesTo .pcie (PcieReflects ports) ((Operation.setBaudRate value).program port)
      state (settings.answer .pcie port.channel (.setBaudRate value)) := by
  have own := reflects port.channel inRange
  have rateNonzero : (state.fields port.channel).sampleRate ≠ 0 :=
    own.shadowed.rate_ne_zero
  have program : (Operation.setBaudRate value).program port =
      Reply.status <$> pcieSetBaudRate port value := by
    simp only [Operation.program, fastcomSetBaudRate, pcie, bind_pure_comp]
  have limit : value > baudLimit (state.fields port.channel).sampleRate ↔
      value.toNat > 125000000 /
        (settings.value port.channel .sampleRate).toNat := by
    rw [← own.sampleRate, ← toNat_baudLimit]
    exact BitVec.lt_def
  rw [program, CardSettings.answer, if_pos rfl, CardSettings.setBaudRate]
  by_cases zero : value = 0
  · have isZero : value.toNat = 0 := congrArg BitVec.toNat zero
    have faults := run_pcieSetBaudRate_faults port state value (.inl zero)
    simp [isZero, ComesTo, faults]
  · have notZero : value.toNat ≠ 0 := fun same => zero (BitVec.eq_of_toNat_eq same)
    have run := run_pcieSetBaudRate port state zero rateNonzero
    by_cases large : value > baudLimit (state.fields port.channel).sampleRate
    · rw [if_pos large] at run
      rw [if_pos (limit.mp large)]
      refine ⟨state, ?_, reflects⟩
      rw [Machine.run_map, run]
      rfl
    · rw [if_neg large] at run
      rw [if_neg (fun above => large (limit.mpr above)), if_neg notZero]
      have after := reflects.setDivisor port.channel
        (baudDivisor value (state.fields port.channel).sampleRate)
      rw [toNat_baudDivisor rateNonzero large, own.sampleRate] at after
      rw [own.sampleRate] at run
      refine ⟨_, ?_, after⟩
      rw [Machine.run_map, run]
      rfl

theorem comesTo_getBaudRate (pcie : fastcomGetCardType port = .pcie)
    (reflects : PcieReflects ports state settings) (inRange : port.channel < ports)
    (before : BitVec 64) :
    ComesTo .pcie (PcieReflects ports) ((Operation.getBaudRate before).program port)
      state (settings.answer .pcie port.channel (.getBaudRate before)) := by
  have own := reflects port.channel inRange
  have rateNonzero : (state.fields port.channel).sampleRate ≠ 0 :=
    own.shadowed.rate_ne_zero
  have program : (Operation.getBaudRate before).program port =
      (fun answer => Reply.rate answer.1 answer.2) <$> pcieGetBaudRate port := by
    simp only [Operation.program, fastcomGetBaudRate, pcie, bind_pure_comp]
  rw [program, CardSettings.answer, if_pos rfl, CardSettings.getBaudRate]
  by_cases zero : latchedDivisor (state.uart port.channel).banked = 0
  · have isZero : settings.divisor port.channel = 0 := by
      rw [← own.divisor, zero]
      rfl
    have faults := run_pcieGetBaudRate_faults port state (.inr zero)
    simp [isZero, ComesTo, faults]
  · have notZero : settings.divisor port.channel ≠ 0 := by
      rw [← own.divisor]
      exact fun same => zero (BitVec.eq_of_toNat_eq same)
    have run := run_pcieGetBaudRate port state rateNonzero zero
    have rate := @toNat_baudRate (latchedDivisor (state.uart port.channel).banked)
      (state.fields port.channel).sampleRate
    rw [own.divisor, own.sampleRate] at rate
    rw [own.sampleRate] at run
    rw [if_neg notZero]
    refine ⟨state, ?_, reflects⟩
    rw [Machine.run_map, run, ← rate, BitVec.ofNat_toNat, BitVec.setWidth_eq]
    rfl

theorem comesTo_pcie (pcie : fastcomGetCardType port = .pcie) (few : ports ≤ 8)
    (reflects : PcieReflects ports state settings) (inRange : port.channel < ports)
    (operation : Operation) :
    ComesTo .pcie (PcieReflects ports) (operation.program port) state
      (settings.answer .pcie port.channel operation) := by
  have notFscc : CardType.pcie ≠ .fscc := by decide
  cases operation with
  | set setting value =>
      apply comesTo_set pcie (by decide) reflects
        (inOperatingRange_firmware notFscc _ _ value setting)
      intro accepted
      have accepts := (pcieAccepts_iff _ _ _).mpr accepted
      exact ⟨_, run_set_pcie_of_accepts pcie state value setting accepts,
        reflects.set few inRange accepts⟩
  | get setting before =>
      have reported := (reflects port.channel inRange).reports before setting
      refine ⟨state, ?_, reflects⟩
      rw [Operation.program, Machine.run_bind, run_get_pcie pcie state before setting]
      exact congrArg
        (fun answer => (some (Reply.value answer.1 answer.2), state)) reported
  | setClockBits clockData allocated =>
      refine ⟨state, ?_, reflects⟩
      simp only [Operation.program, fastcomSetClockBits, pcie]
      rfl
  | enableAsyncMode =>
      refine ⟨state, ?_, reflects⟩
      simp only [Operation.program, fsccEnableAsyncMode, pcie, if_pos notFscc,
        if_neg notFscc]
      rfl
  | disableAsyncMode =>
      refine ⟨state, ?_, reflects⟩
      simp only [Operation.program, fsccDisableAsyncMode, pcie, if_pos notFscc,
        if_neg notFscc]
      rfl
  | setBaudRate value => exact comesTo_setBaudRate pcie reflects inRange value
  | getBaudRate before => exact comesTo_getBaudRate pcie reflects inRange before

end Pcie

/-! ## FSCC cards -/

/-- The ports of an FSCC card report the settings, and ACR is in step with its
shadow. -/
structure FsccPortReflects (state : CardState) (settings : CardSettings)
    (channel : Nat) : Prop where
  synced : (state.fsccView channel).AcrSynced
  firmware : (state.firmwareRevision channel).toNat = settings.firmware channel
  reports : ViewReports FsccView.model .fscc (state.fsccView channel) settings channel

def FsccReflects (state : CardState) (settings : CardSettings) : Prop :=
  ∀ channel < 2, FsccPortReflects state settings channel

section Fscc

variable {state next : CardState} {settings : CardSettings} {port : Port}

theorem FsccReflects.of_views (reflects : FsccReflects state settings)
    (same : ∀ other, next.fsccView other = state.fsccView other) :
    FsccReflects next settings := by
  intro channel small
  rcases reflects channel small with ⟨synced, firmware, reports⟩
  have sameFirmware : next.firmwareRevision channel = state.firmwareRevision channel :=
    congrArg FsccView.firmwareRevision (same channel)
  rw [← same channel] at synced reports
  rw [← sameFirmware] at firmware
  exact ⟨synced, firmware, reports⟩

theorem FsccReflects.set (reflects : FsccReflects state settings)
    (small : port.channel < 2) {value : BitVec 32} {setting : Setting}
    (accepted : (state.fsccView port.channel).Accepts value setting) :
    FsccReflects (state.applyFscc port value setting)
      (settings.set .fscc port.channel value setting) := by
  intro other otherSmall
  have before := reflects other otherSmall
  have own := fsccView_applyFscc_self state port small value setting
  have others : ∀ other ≠ port.channel,
      (state.applyFscc port value setting).fsccView other = state.fsccView other :=
    fun other different => fsccView_applyFscc_of_ne state port different value setting
  have supported : setting.SupportedBy .fscc (settings.firmware port.channel) := by
    rw [← (reflects port.channel small).firmware]
    exact supported_of_inOperatingRange ((fsccAccepts_iff _ _ _).mp accepted)
  refine ⟨?_, ?_, before.reports.set (by decide) accepted supported own others⟩
  · by_cases isOwn : other = port.channel
    · subst isOwn
      rw [own]
      exact before.synced.set value setting
    · rw [others other isOwn]
      exact before.synced
  · by_cases isOwn : other = port.channel
    · subst isOwn
      have kept := congrArg FsccView.firmwareRevision own
      rw [FsccView.set_firmwareRevision] at kept
      exact (congrArg BitVec.toNat kept).trans before.firmware
    · have kept := congrArg FsccView.firmwareRevision (others other isOwn)
      exact (congrArg BitVec.toNat kept).trans before.firmware

theorem comesTo_fscc (fscc : fastcomGetCardType port = .fscc)
    (reflects : FsccReflects state settings) (small : port.channel < 2)
    (operation : Operation) :
    ComesTo .fscc FsccReflects (operation.program port) state
      (settings.answer .fscc port.channel operation) := by
  have own := reflects port.channel small
  cases operation with
  | set setting value =>
      apply comesTo_set fscc (by decide) reflects
      · rw [own.firmware]
      · intro accepted
        have accepts : (state.fsccView port.channel).Accepts value setting :=
          (fsccAccepts_iff value setting _).mpr accepted
        exact ⟨_, run_set_of_accepts fscc state value setting accepts,
          reflects.set small accepts⟩
  | get setting before =>
      rcases run_get_of_synced fscc state own.synced before setting with ⟨index, run⟩
      have reported := own.reports before setting
      refine ⟨_, ?_, reflects.of_views fun other =>
        fsccView_setIndex state port.channel other index⟩
      rw [Operation.program, Machine.run_bind, run]
      exact congrArg (fun answer => (some (Reply.value answer.1 answer.2), _)) reported
  | setClockBits clockData allocated =>
      refine ⟨state, ?_, reflects⟩
      simp only [Operation.program, fastcomSetClockBits, fscc, Machine.run_bind,
        run_setClockBitsFscc]
      rfl
  | enableAsyncMode =>
      rcases run_enableAsyncMode fscc state small with ⟨next, run, same⟩
      refine ⟨next, ?_, reflects.of_views same⟩
      rw [Operation.program, Machine.run_bind, run]
      rfl
  | disableAsyncMode =>
      rcases run_disableAsyncMode fscc state small with ⟨next, run, same⟩
      refine ⟨next, ?_, reflects.of_views same⟩
      rw [Operation.program, Machine.run_bind, run]
      rfl
  | setBaudRate value =>
      refine ⟨state, ?_, reflects⟩
      simp only [Operation.program, fastcomSetBaudRate, fscc]
      rfl
  | getBaudRate before =>
      refine ⟨state, ?_, reflects⟩
      simp only [Operation.program, fastcomGetBaudRate, fscc]
      rfl

end Fscc

end SerialFc
