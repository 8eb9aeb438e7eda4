import SerialFc.Foundation.Interference
import SerialFc.Interface.Footprint

/-! # What belongs to a port, and what its ports share

A call on a port reaches that port's registers and shadow fields, and those of
FCR or the configuration registers that its command is about. What it does to
its own port does not depend on what it reads in the shared ones.
-/

namespace SerialFc

/-! ## Registers that the ports share -/

def Location.shared : Location → Bool
  | .config _ | .fcr => true
  | .uart _ | .line _ | .plain .. | .bar0 _ | .field .. | .acr _ => false

def Access.shared (type : CardType) (access : Access) : Bool :=
  (access.location type).shared

/-- What belongs to one port, and BAR 0, which nothing changes. -/
def CardState.portPart (channel : Nat) (state : CardState) :
    Uart × PortFields × (Nat → BitVec 32) :=
  (state.uart channel, state.fields channel, state.bar0)

def Location.Within (channel : Nat) : Location → Prop
  | .uart other | .line other | .plain other _ | .field other _ | .acr other =>
      other = channel
  | .config _ | .fcr | .bar0 _ => True

def Access.Within (type : CardType) (channel : Nat) (access : Access) : Prop :=
  (access.location type).Within channel ∧
    (access.mutates = true → ∀ offset, access.location type ≠ .bar0 offset)

theorem footprint_within (port : Port) (command : Command) :
    (∀ location ∈ (command.footprint port).reads,
        location.Within port.channel) ∧
      ∀ location ∈ (command.footprint port).writes,
        location.Within port.channel ∧ ∀ offset, location ≠ .bar0 offset := by
  cases type : fastcomGetCardType port <;> cases command <;>
    simp [Command.footprint, Command.footprintPci, Command.footprintPcie,
      Command.footprintFscc, Footprint.none, Location.Within, type]

theorem performs_within (port : Port) (arg : BitVec 64) (user : UserSpace)
    (allocated : Bool) (command : Command) :
    (serialfcIoctl port arg user allocated command).Performs
      (Access.Within (fastcomGetCardType port) port.channel) := by
  rcases footprint_within port command with ⟨reads, writes⟩
  apply (serialfcIoctl_keepsToFootprint port command arg user allocated).mono
  rintro access (written | ⟨notMutates, read⟩)
  · rcases writes _ written with ⟨within, notBar0⟩
    exact ⟨within, fun _ => notBar0⟩
  · refine ⟨reads _ read, fun mutates => ?_⟩
    rw [mutates] at notMutates
    cases notMutates

section Separation

variable {type : CardType} {channel other offset : Nat}

theorem byteLocation_shared :
    (byteLocation type channel offset).shared = true ↔
      type ≠ .fscc ∧ configBase ≤ offset := by
  by_cases fscc : type = .fscc
  · simp [fscc, byteLocation, Location.shared]
  · rw [byteLocation_exar fscc]
    split_ifs <;> simp [Location.shared, *]

theorem byteLocation_within
    (own : (byteLocation type channel offset).shared = false)
    (within : (byteLocation type channel offset).Within other) :
    channel = other := by
  by_cases fscc : type = .fscc
  · simpa [fscc, byteLocation, Location.Within] using within
  · rw [byteLocation_exar fscc] at own within
    split_ifs at own within
    · cases own
    · exact within
    · exact within

theorem read8_own (own : (byteLocation type channel offset).shared = false)
    {first second : CardState}
    (same : first.uart channel = second.uart channel) :
    first.read8 type channel offset = second.read8 type channel offset := by
  by_cases fscc : type = .fscc
  · simp [fscc, CardState.read8, same]
  · have low : ¬configBase ≤ offset := by
      intro config
      rw [byteLocation_shared.mpr ⟨fscc, config⟩] at own
      cases own
    rw [read8_exar _ fscc, read8_exar _ fscc, if_neg low, if_neg low, same]

theorem write8_portPart_own
    (own : (byteLocation type channel offset).shared = false)
    (value : BitVec 8) {first second : CardState}
    (same : first.portPart channel = second.portPart channel) :
    (first.write8 type channel offset value).portPart channel =
      (second.write8 type channel offset value).portPart channel := by
  have uart : first.uart channel = second.uart channel := congrArg Prod.fst same
  have rest := congrArg Prod.snd same
  by_cases fscc : type = .fscc
  · subst fscc
    simpa [CardState.write8, CardState.portPart, uart] using rest
  · have low : ¬configBase ≤ offset := by
      intro config
      rw [byteLocation_shared.mpr ⟨fscc, config⟩] at own
      cases own
    rw [write8_exar _ _ fscc, write8_exar _ _ fscc, if_neg low, if_neg low]
    simpa [CardState.portPart, uart] using rest

theorem write8_portPart_foreign
    (foreign : (byteLocation type other offset).shared = true ∨
      other ≠ channel)
    (value : BitVec 8) (state : CardState) :
    (state.write8 type other offset value).portPart channel =
      state.portPart channel := by
  by_cases fscc : type = .fscc
  · subst fscc
    have different := foreign.resolve_left (by simp [byteLocation_shared])
    simp [CardState.write8, CardState.portPart,
      Function.update_of_ne (Ne.symm different)]
  · rw [write8_exar _ _ fscc]
    by_cases config : configBase ≤ offset
    · rw [if_pos config]
      rfl
    · have different := foreign.resolve_left (by
        simp [byteLocation_shared, config])
      rw [if_neg config]
      simp [CardState.portPart, Function.update_of_ne (Ne.symm different)]

/-- Accesses of shared registers, and those that another port makes, are not
seen in a port's part. -/
theorem portPart_foreign {access : Access}
    (foreign : access.shared type = true ∨
      other ≠ channel ∧ access.Within type other)
    (state : CardState) :
    ((cardMachine type).execute state access).2.portPart channel =
      state.portPart channel := by
  cases access with
  | ioread8 | ioread32 | load | loadAcr => rfl
  | iowrite8 accessed offset value =>
      apply write8_portPart_foreign
      rcases foreign with shared | ⟨different, within⟩
      · exact .inl shared
      · cases own : (byteLocation type accessed offset).shared with
        | true => exact .inl rfl
        | false =>
            right
            rw [byteLocation_within own within.1]
            exact different
  | iowrite32 bar offset value =>
      cases bar with
      | bar0 =>
          rcases foreign with shared | ⟨_, within⟩
          · cases shared
          · exact absurd rfl (within.2 rfl offset)
      | bar2 => rfl
  | store accessed field value =>
      rcases foreign with shared | ⟨different, within⟩
      · cases shared
      · have isOther : accessed = other := within.1
        have apart : channel ≠ accessed := by
          rw [isOther]
          exact Ne.symm different
        simp [cardMachine, CardState.setField, CardState.portPart,
          Function.update_of_ne apart]
  | storeAcr accessed value =>
      rcases foreign with shared | ⟨different, within⟩
      · cases shared
      · have isOther : accessed = other := within.1
        have apart : channel ≠ accessed := by
          rw [isOther]
          exact Ne.symm different
        simp [cardMachine, CardState.setAcr, CardState.portPart,
          Function.update_of_ne apart]

theorem portPart_own {access : Access} (own : access.shared type = false)
    (within : access.Within type channel) {first second : CardState}
    (same : first.portPart channel = second.portPart channel) :
    ((cardMachine type).execute first access).1 =
        ((cardMachine type).execute second access).1 ∧
      ((cardMachine type).execute first access).2.portPart channel =
        ((cardMachine type).execute second access).2.portPart channel := by
  have uart : first.uart channel = second.uart channel := congrArg Prod.fst same
  have fields : first.fields channel = second.fields channel :=
    congrArg (fun part => part.2.1) same
  have bar0 : first.bar0 = second.bar0 := congrArg (fun part => part.2.2) same
  cases access with
  | ioread8 accessed offset =>
      obtain rfl : accessed = channel := byteLocation_within own within.1
      exact ⟨read8_own own uart, same⟩
  | iowrite8 accessed offset value =>
      obtain rfl : accessed = channel := byteLocation_within own within.1
      exact ⟨rfl, write8_portPart_own own value same⟩
  | ioread32 bar offset =>
      cases bar with
      | bar0 => exact ⟨congrFun bar0 offset, same⟩
      | bar2 => cases own
  | iowrite32 bar offset value =>
      cases bar with
      | bar0 => exact absurd rfl (within.2 rfl offset)
      | bar2 => cases own
  | load accessed field =>
      obtain rfl : accessed = channel := within.1
      exact ⟨congrArg (fun fields => fields.get field) fields, same⟩
  | store accessed field value =>
      obtain rfl : accessed = channel := within.1
      refine ⟨rfl, ?_⟩
      simp [cardMachine, CardState.setField, CardState.portPart, uart, fields,
        bar0]
  | loadAcr accessed =>
      obtain rfl : accessed = channel := within.1
      exact ⟨congrArg PortFields.acr fields, same⟩
  | storeAcr accessed value =>
      obtain rfl : accessed = channel := within.1
      refine ⟨rfl, ?_⟩
      simp [cardMachine, CardState.setAcr, CardState.portPart, uart, fields,
        bar0]

theorem separates (different : other ≠ channel) :
    (cardMachine type).Separates (Access.shared type)
      (CardState.portPart channel) (Access.Within type channel)
      (Access.Within type other) where
  own _ within own _ _ same := portPart_own own within same
  shared _ _ shared state :=
    @portPart_foreign type channel other _ (.inl shared) state
  foreign _ within state := portPart_foreign (.inr ⟨different, within⟩) state

end Separation

/-! ## What shared registers decide -/

section Steady

variable (port : Port) (arg : BitVec 64) (user : UserSpace) (allocated : Bool)

/-- Footprints without shared locations, or that are written nowhere else. -/
theorem steady_of_footprint {type : CardType} {α : Type} {program : Driver α}
    {footprint : Footprint} (performs : program.Performs (footprint.Permits type))
    (apart : (∀ location ∈ footprint.reads ++ footprint.writes,
        location.shared = false) ∨
      ∀ location ∈ footprint.writes, location.shared = true) :
    (cardMachine type).Steady (Access.shared type) program := by
  rcases apart with own | written
  · apply Machine.steady_of_own
    apply performs.mono
    rintro access (writes | ⟨_, reads⟩)
    · exact own _ (List.mem_append_right _ writes)
    · exact own _ (List.mem_append_left _ reads)
  · apply Machine.steady_of_quiet
    apply performs.mono
    rintro access (writes | ⟨notMutates, _⟩)
    · exact .inl (written _ writes)
    · exact .inr (keeps_of_not_mutates notMutates)

theorem steady_setRs485 (value : BitVec 32) :
    (cardMachine (fastcomGetCardType port)).Steady
      (Access.shared (fastcomGetCardType port)) (fastcomSetRs485 port value) := by
  intro state answers others
  cases type : fastcomGetCardType port with
  | pci =>
      simp [fastcomSetRs485, fastcomSetRs485Pci, type, Machine.run_bind, ioread8,
        iowrite8, Machine.detached, Access.shared, Access.location,
        Location.shared, byteLocation, configBase, lcrOffset, uartExarFctr,
        mpiolvlOffset]
  | pcie =>
      simp [fastcomSetRs485, fastcomSetRs485Pcie, type, Machine.run_bind,
        ioread8, iowrite8, Machine.detached, Access.shared, Access.location,
        Location.shared, byteLocation, configBase, lcrOffset, uartExarFctr,
        mcrOffset]
  | fscc =>
      simp [fastcomSetRs485, fastcomSetRs485Fscc, type, Machine.run_bind,
        ioread8, iowrite8, ioread32, iowrite32, loadAcr, storeAcr,
        Machine.detached, Access.shared, Access.location, Location.shared,
        byteLocation]
  | unknown => simp [fastcomSetRs485, type]

theorem steady_setSampleRate (value : BitVec 32) :
    (cardMachine (fastcomGetCardType port)).Steady
      (Access.shared (fastcomGetCardType port))
      (fastcomSetSampleRate port value) := by
  intro state answers others
  cases type : fastcomGetCardType port with
  | pci =>
      by_cases refused : value ≠ 8 ∧ value ≠ 16
      · simp only [fastcomSetSampleRate, fastcomSetSampleRatePci, type,
          if_pos refused]
        rfl
      · simp only [fastcomSetSampleRate, fastcomSetSampleRatePci, type,
          if_neg refused]
        simp [Machine.run_bind, ioread8, iowrite8, store, Machine.detached,
          Access.shared, Access.location, Location.shared, byteLocation,
          configBase, uartExar8xmode]
  | pcie =>
      by_cases refused : value ≠ 4 ∧ value ≠ 8 ∧ value ≠ 16
      · simp only [fastcomSetSampleRate, fastcomSetSampleRatePcie, type,
          if_pos refused]
        rfl
      · simp only [fastcomSetSampleRate, fastcomSetSampleRatePcie, type,
          if_neg refused]
        simp [Machine.run_bind, ioread8, iowrite8, store, Machine.detached,
          Access.shared, Access.location, Location.shared, byteLocation,
          configBase, uartExar4xmode, uartExar8xmode]
  | fscc =>
      by_cases refused : value < 4 ∨ value > 16
      · simp only [fastcomSetSampleRate, fastcomSetSampleRateFscc, type,
          if_pos refused]
        rfl
      · simp only [fastcomSetSampleRate, fastcomSetSampleRateFscc, type,
          if_neg refused]
        simp [Machine.run_bind, ioread8, iowrite8, store, Machine.detached,
          Access.shared, Access.location, Location.shared, byteLocation]
  | unknown =>
      simp [fastcomSetSampleRate, type, store, Machine.detached, Access.shared,
        Access.location, Location.shared]

theorem serialfcIoctl_steady (command : Command) :
    (cardMachine (fastcomGetCardType port)).Steady
      (Access.shared (fastcomGetCardType port))
      (serialfcIoctl port arg user allocated command) := by
  have keeps := serialfcIoctl_keepsToFootprint port command arg user allocated
  cases command with
  | enableRs485 =>
      simp only [serialfcIoctl, fastcomEnableRs485, bind_pure_comp]
      exact ((steady_setRs485 port 1).map _).map _
  | disableRs485 =>
      simp only [serialfcIoctl, fastcomDisableRs485, bind_pure_comp]
      exact ((steady_setRs485 port 0).map _).map _
  | setSampleRate =>
      simp only [serialfcIoctl, bind_pure_comp]
      exact (steady_setSampleRate port _).map _
  | _ =>
      apply steady_of_footprint keeps
      cases type : fastcomGetCardType port <;>
        simp [Command.footprint, Command.footprintPci, Command.footprintPcie,
          Command.footprintFscc, Footprint.none, Location.shared, type]

def Command.asksShared (type : CardType) : Command → Bool
  | .getEchoCancel => decide (type ≠ .unknown)
  | .getTermination => decide (type = .pcie)
  | .getRs485 => decide (type = .fscc)
  | _ => false

theorem certain_of_footprint {type : CardType} {α : Type} {program : Driver α}
    {footprint : Footprint} (performs : program.Performs (footprint.Permits type))
    (own : ∀ location ∈ footprint.reads ++ footprint.writes,
      location.shared = false) :
    (cardMachine type).Certain (Access.shared type) program := by
  apply Machine.certain_of_own
  apply performs.mono
  rintro access (writes | ⟨_, reads⟩)
  · exact own _ (List.mem_append_right _ writes)
  · exact own _ (List.mem_append_left _ reads)

theorem setRs485_ends (value : BitVec 32) :
    (fastcomSetRs485 port value).Ends fun result => ∃ status,
      result = some status := by
  cases type : fastcomGetCardType port <;>
    simp [fastcomSetRs485, fastcomSetRs485Pci, fastcomSetRs485Pcie,
      fastcomSetRs485Fscc, type, ioread8, iowrite8, ioread32, iowrite32,
      loadAcr, storeAcr]

theorem setEchoCancel_ends (value : BitVec 32) :
    (fastcomSetEchoCancel port value).Ends fun result => result = some () := by
  cases type : fastcomGetCardType port <;>
    simp [fastcomSetEchoCancel, fastcomSetEchoCancelPci,
      fastcomSetEchoCancelPcie, fastcomSetEchoCancelFscc, type, ioread8,
      iowrite8, ioread32, iowrite32]

theorem setTermination_ends (value : BitVec 32) :
    ∃ status, (fastcomSetTermination port value).Ends fun result =>
      result = some status := by
  cases type : fastcomGetCardType port with
  | pcie =>
      refine ⟨0, ?_⟩
      simp [fastcomSetTermination, fastcomSetTerminationPcie, type, ioread8,
        iowrite8]
  | pci | fscc | unknown =>
      refine ⟨-eprotonosupport, ?_⟩
      simp [fastcomSetTermination, type]

theorem iowrite32Rep_ends (bar : Bar) (offset : Nat)
    (values : List (BitVec 32)) :
    (iowrite32Rep bar offset values).Ends fun result => result = some () := by
  induction values with
  | nil => rfl
  | cons value values induction => exact fun _ => induction

theorem xtalDisabled_ends :
    (xtalDisabled port).Ends fun result => result.isSome = true := by
  simp [xtalDisabled, fsccGetPdev, fsccGetPrev, ioread32]

theorem setClockBitsFscc_ends (clockData : Fin 20 → BitVec 8) :
    ∃ status, (fastcomSetClockBitsFscc port clockData allocated).Ends
      fun result => result = some status := by
  refine ⟨if allocated then 0 else 1, ?_⟩
  apply Program.Ends.bind
  apply (xtalDisabled_ends port).mono
  intro result present
  rcases Option.isSome_iff_exists.mp present with ⟨disabled, rfl⟩
  refine ⟨disabled, rfl, ?_⟩
  cases allocated with
  | false => rfl
  | true =>
      simp only [ioread32, if_true, Program.ends_perform_bind]
      intro origFcrValue
      generalize fcrClockData port.channel (forceXtal disabled clockData)
        origFcrValue = data
      apply Program.Ends.bind
      apply (iowrite32Rep_ends _ _ _).mono
      rintro _ rfl
      exact ⟨(), rfl, rfl⟩

theorem shiftClockBitsPci_ends (remaining : Nat) (tempValue : BitVec 64)
    (data : BitVec 8) :
    (shiftClockBitsPci port remaining tempValue data).Ends
      fun result => ∃ last, result = some last := by
  induction remaining generalizing tempValue data with
  | zero => exact ⟨data, rfl⟩
  | succ remaining induction => exact fun _ _ _ => induction _ _

theorem setClockBitsPci_ends (clockData : BitVec 32) :
    (fastcomSetClockBitsPci port clockData).Ends
      fun result => result = some 0 := by
  simp only [fastcomSetClockBitsPci, ioread8, Program.ends_perform_bind]
  intro saved
  apply Program.Ends.bind
  apply (shiftClockBitsPci_ends port _ _ _).mono
  rintro _ ⟨last, rfl⟩
  refine ⟨last, rfl, ?_⟩
  exact fun _ _ _ => rfl

theorem setClockBits_ends (clockData : Fin 20 → BitVec 8) :
    ∃ status, (fastcomSetClockBits port clockData allocated).Ends
      fun result => result = some status := by
  cases type : fastcomGetCardType port with
  | fscc =>
      simp only [fastcomSetClockBits, type]
      exact setClockBitsFscc_ends port allocated clockData
  | pci =>
      simp only [fastcomSetClockBits, type]
      exact ⟨0, setClockBitsPci_ends port _⟩
  | pcie | unknown =>
      refine ⟨-eprotonosupport, ?_⟩
      simp [fastcomSetClockBits, type]

theorem storeIfSet_ends {program : Driver Int} {field : PortField}
    {value : BitVec 32} {status : Int}
    (ends : program.Ends fun result => result = some status) :
    (do
      let status ← program
      if status = 0 then
        store port field value
      pure status : Driver Int).Ends fun result => result = some status := by
  apply Program.Ends.bind
  apply ends.mono
  rintro _ rfl
  refine ⟨status, rfl, ?_⟩
  simp [store]

theorem refuses_ends {refused : Prop} [Decidable refused] {program : Driver Int}
    (ends : program.Ends fun result => result = some 0) :
    (if refused then pure (-einval) else program).Ends fun result =>
      result = some (if refused then -einval else 0) := by
  split
  case isTrue => rfl
  case isFalse => exact ends

theorem setSampleRate_ends (value : BitVec 32) :
    ∃ status, (fastcomSetSampleRate port value).Ends
      fun result => result = some status := by
  cases type : fastcomGetCardType port with
  | pci =>
      simp only [fastcomSetSampleRate, fastcomSetSampleRatePci, type]
      refine ⟨_, storeIfSet_ends port (refuses_ends ?_)⟩
      simp [ioread8, iowrite8]
  | pcie =>
      simp only [fastcomSetSampleRate, fastcomSetSampleRatePcie, type]
      refine ⟨_, storeIfSet_ends port (refuses_ends ?_)⟩
      simp [ioread8, iowrite8]
  | fscc =>
      simp only [fastcomSetSampleRate, fastcomSetSampleRateFscc, type]
      refine ⟨_, storeIfSet_ends port (refuses_ends ?_)⟩
      simp [ioread8, iowrite8]
  | unknown =>
      refine ⟨0, ?_⟩
      simp [fastcomSetSampleRate, type, store]

theorem serialfcIoctl_certain (command : Command)
    (own : command.asksShared (fastcomGetCardType port) = false) :
    (cardMachine (fastcomGetCardType port)).Certain
      (Access.shared (fastcomGetCardType port))
      (serialfcIoctl port arg user allocated command) := by
  have keeps := serialfcIoctl_keepsToFootprint port command arg user allocated
  cases command with
  | enableRs485 | disableRs485 =>
      apply Machine.certain_of_ends
      simp only [serialfcIoctl, fastcomEnableRs485, fastcomDisableRs485,
        bind_pure_comp, Program.ends_map]
      apply (setRs485_ends port _).mono
      rintro _ ⟨status, rfl⟩
      rfl
  | enableEchoCancel | disableEchoCancel =>
      apply Machine.certain_of_ends
      simp only [serialfcIoctl, fastcomEnableEchoCancel,
        fastcomDisableEchoCancel, bind_pure_comp, Program.ends_map]
      apply (setEchoCancel_ends port _).mono
      rintro _ rfl
      rfl
  | enableTermination | disableTermination =>
      rcases setTermination_ends port _ with ⟨status, ends⟩
      apply Machine.certain_of_ends
      simp only [serialfcIoctl, fastcomEnableTermination,
        fastcomDisableTermination, bind_pure_comp, Program.ends_map]
      apply ends.mono
      rintro _ rfl
      rfl
  | setSampleRate =>
      rcases setSampleRate_ends port _ with ⟨status, ends⟩
      apply Machine.certain_of_ends
      simp only [serialfcIoctl, bind_pure_comp, Program.ends_map]
      apply ends.mono
      rintro _ rfl
      rfl
  | setClockBits =>
      rcases setClockBits_ends port allocated _ with ⟨status, ends⟩
      apply Machine.certain_of_ends
      simp only [serialfcIoctl, bind_pure_comp, Program.ends_map]
      apply ends.mono
      rintro _ rfl
      rfl
  | _ =>
      apply certain_of_footprint keeps
      cases type : fastcomGetCardType port <;>
        simp [Command.footprint, Command.footprintPci, Command.footprintPcie,
          Command.footprintFscc, Command.asksShared, Footprint.none,
          Location.shared, type] at own ⊢

end Steady

end SerialFc
