import SerialFc.Driver.Locations
import SerialFc.Interface.Ioctl
import SerialFc.Fscc.ClockBits

/-! # What each ioctl command touches

The locations that a call of the handler reads, and those that it changes,
which it may read as well. Calls whose footprints are apart do not disturb each
other.
-/

namespace SerialFc

structure Footprint where
  reads : List Location
  writes : List Location

namespace Footprint

def none : Footprint := ⟨[], []⟩

def Permits (type : CardType) (footprint : Footprint) (access : Access) : Prop :=
  access.location type ∈ footprint.writes ∨
    access.mutates = false ∧ access.location type ∈ footprint.reads

def Independent (first second : Footprint) : Prop :=
  (∀ location ∈ first.writes,
    location ∉ second.reads ∧ location ∉ second.writes) ∧
  ∀ location ∈ second.writes, location ∉ first.reads

instance (first second : Footprint) : Decidable (first.Independent second) :=
  inferInstanceAs (Decidable (_ ∧ _))

theorem commutes_of_independent {type : CardType} {first second : Footprint}
    (independent : first.Independent second) {early late : Access}
    (earlyPermitted : first.Permits type early)
    (latePermitted : second.Permits type late) :
    (cardMachine type).Commutes early late := by
  rcases independent with ⟨firstWrites, secondWrites⟩
  apply commutes_of_apart
  intro same
  rcases earlyPermitted with earlyWrites | ⟨earlyReads, earlyRead⟩
  · rcases firstWrites _ earlyWrites with ⟨notRead, notWritten⟩
    rw [same] at notRead notWritten
    rcases latePermitted with lateWrites | ⟨_, lateRead⟩
    · exact absurd lateWrites notWritten
    · exact absurd lateRead notRead
  · rcases latePermitted with lateWrites | ⟨lateReads, _⟩
    · rw [same] at earlyRead
      exact absurd earlyRead (secondWrites _ lateWrites)
    · exact ⟨earlyReads, lateReads⟩

end Footprint

/-! ## Footprints of the commands -/

namespace Command

/-- On PCI cards the driver enables of RS485, echo cancel and the clock pins
are all in MPIOLVL. -/
def footprintPci (channel : Nat) : Command → Footprint
  | .enableRs485 | .disableRs485 =>
      ⟨[], [.config mpiolvlOffset, .plain channel uartExarFctr]⟩
  | .getRs485 => ⟨[.plain channel uartExarFctr], []⟩
  | .enableEchoCancel | .disableEchoCancel | .setClockBits =>
      ⟨[], [.config mpiolvlOffset]⟩
  | .getEchoCancel => ⟨[.config mpiolvlOffset], []⟩
  | .setSampleRate =>
      ⟨[], [.config uartExar8xmode, .field channel .sampleRate]⟩
  | .getSampleRate => ⟨[.field channel .sampleRate], []⟩
  | .setTxTrigger =>
      ⟨[], [.plain channel uartExarTxtrg, .field channel .txTrigger]⟩
  | .getTxTrigger => ⟨[.field channel .txTrigger], []⟩
  | .setRxTrigger =>
      ⟨[], [.plain channel uartExarRxtrg, .field channel .rxTrigger]⟩
  | .getRxTrigger => ⟨[.field channel .rxTrigger], []⟩
  | _ => .none

def footprintPcie (channel : Nat) : Command → Footprint
  | .enableRs485 | .disableRs485 =>
      ⟨[], [.plain channel mcrOffset, .plain channel uartExarFctr]⟩
  | .getRs485 => ⟨[.plain channel uartExarFctr], []⟩
  | .enableEchoCancel | .disableEchoCancel => ⟨[], [.config mpiolvlhOffset]⟩
  | .getEchoCancel => ⟨[.config mpiolvlhOffset], []⟩
  | .enableTermination | .disableTermination => ⟨[], [.config mpiolvlOffset]⟩
  | .getTermination => ⟨[.config mpiolvlOffset], []⟩
  | .setSampleRate =>
      ⟨[], [.config uartExar4xmode, .config uartExar8xmode,
        .field channel .sampleRate]⟩
  | .getSampleRate => ⟨[.field channel .sampleRate], []⟩
  | .setTxTrigger =>
      ⟨[], [.plain channel uartExarTxtrg, .field channel .txTrigger]⟩
  | .getTxTrigger => ⟨[.field channel .txTrigger], []⟩
  | .setRxTrigger =>
      ⟨[], [.plain channel uartExarRxtrg, .field channel .rxTrigger]⟩
  | .getRxTrigger => ⟨[.field channel .rxTrigger], []⟩
  -- Reading the divisor switches LCR as well.
  | .setBaudRate | .getBaudRate =>
      ⟨[.field channel .sampleRate], [.line channel]⟩
  | _ => .none

/-- Every indexed access of an FSCC port goes through LCR and SPR, also in a
getter. -/
def footprintFscc (channel : Nat) : Command → Footprint
  | .enableRs485 | .disableRs485 =>
      ⟨[], [.uart channel, .acr channel, .fcr]⟩
  | .getRs485 => ⟨[.fcr, .acr channel], []⟩
  | .enableEchoCancel | .disableEchoCancel => ⟨[], [.fcr]⟩
  | .getEchoCancel => ⟨[.fcr], []⟩
  | .setSampleRate => ⟨[], [.uart channel, .field channel .sampleRate]⟩
  | .getSampleRate => ⟨[.field channel .sampleRate], []⟩
  | .setTxTrigger => ⟨[], [.uart channel, .field channel .txTrigger]⟩
  | .setRxTrigger => ⟨[], [.uart channel, .field channel .rxTrigger]⟩
  | .enableIsochronous | .disableIsochronous | .enableExternalTransmit
  | .disableExternalTransmit => ⟨[], [.uart channel]⟩
  | .getTxTrigger | .getRxTrigger | .getIsochronous | .getExternalTransmit =>
      ⟨[.acr channel], [.uart channel]⟩
  | .setFrameLength => ⟨[.bar0 (vstrAddress channel)], [.uart channel]⟩
  | .getFrameLength =>
      ⟨[.bar0 (vstrAddress channel), .acr channel], [.uart channel]⟩
  | .setClockBits => ⟨[.bar0 (vstrAddress channel)], [.fcr]⟩
  | _ => .none

def footprint (port : Port) (command : Command) : Footprint :=
  match fastcomGetCardType port with
  | .pci => command.footprintPci port.channel
  | .pcie => command.footprintPcie port.channel
  | .fscc => command.footprintFscc port.channel
  | .unknown =>
      -- The sample rate of an unknown card is stored all the same.
      match command with
      | .setSampleRate => ⟨[], [.field port.channel .sampleRate]⟩
      | .getSampleRate => ⟨[.field port.channel .sampleRate], []⟩
      | _ => .none

end Command

/-! ## The handler keeps to its footprints -/

/-- Whatever the registers answer, a call of the command touches nothing outside
its footprint. -/
def KeepsToFootprint (port : Port) (command : Command) : Prop :=
  ∀ arg user allocated,
    (serialfcIoctl port arg user allocated command).Performs
      ((command.footprint port).Permits (fastcomGetCardType port))

section Handler

attribute [local simp] KeepsToFootprint serialfcIoctl Command.footprint
  Command.footprintPci Command.footprintPcie Command.footprintFscc
  Footprint.Permits Access.location Access.mutates

variable (port : Port)

theorem rs485_keepsToFootprint :
    KeepsToFootprint port .enableRs485 ∧ KeepsToFootprint port .disableRs485 ∧
      KeepsToFootprint port .getRs485 := by
  cases type : fastcomGetCardType port with
  | pci | pcie =>
      simp [fastcomEnableRs485, fastcomDisableRs485, fastcomSetRs485,
        fastcomSetRs485Pci, fastcomSetRs485Pcie, fastcomGetRs485,
        fastcomGetRs485Pci, type, ioread8, iowrite8, byteLocation, configBase,
        lcrOffset, mcrOffset, uartExarFctr, mpiolvlOffset]
  | fscc =>
      simp [fastcomEnableRs485, fastcomDisableRs485, fastcomSetRs485,
        fastcomSetRs485Fscc, fastcomGetRs485, fastcomGetRs485Fscc, type,
        ioread8, iowrite8, ioread32, iowrite32, loadAcr, storeAcr, byteLocation]
  | unknown =>
      simp [fastcomEnableRs485, fastcomDisableRs485, fastcomSetRs485,
        fastcomGetRs485, type]

theorem echoCancel_keepsToFootprint :
    KeepsToFootprint port .enableEchoCancel ∧
      KeepsToFootprint port .disableEchoCancel ∧
      KeepsToFootprint port .getEchoCancel := by
  cases type : fastcomGetCardType port with
  | pci =>
      simp [fastcomEnableEchoCancel, fastcomDisableEchoCancel,
        fastcomSetEchoCancel, fastcomSetEchoCancelPci, fastcomGetEchoCancel,
        fastcomGetEchoCancelPci, type, ioread8, iowrite8, byteLocation,
        configBase, mpiolvlOffset]
  | pcie =>
      simp [fastcomEnableEchoCancel, fastcomDisableEchoCancel,
        fastcomSetEchoCancel, fastcomSetEchoCancelPcie, fastcomGetEchoCancel,
        fastcomGetEchoCancelPcie, type, ioread8, iowrite8, byteLocation,
        configBase, mpiolvlhOffset]
  | fscc =>
      simp [fastcomEnableEchoCancel, fastcomDisableEchoCancel,
        fastcomSetEchoCancel, fastcomSetEchoCancelFscc, fastcomGetEchoCancel,
        fastcomGetEchoCancelFscc, type, ioread32, iowrite32]
  | unknown =>
      simp [fastcomEnableEchoCancel, fastcomDisableEchoCancel,
        fastcomSetEchoCancel, fastcomGetEchoCancel, type]

theorem termination_keepsToFootprint :
    KeepsToFootprint port .enableTermination ∧
      KeepsToFootprint port .disableTermination ∧
      KeepsToFootprint port .getTermination := by
  cases type : fastcomGetCardType port with
  | pcie =>
      simp [fastcomEnableTermination, fastcomDisableTermination,
        fastcomSetTermination, fastcomSetTerminationPcie, fastcomGetTermination,
        fastcomGetTerminationPcie, type, ioread8, iowrite8, byteLocation,
        configBase, mpiolvlOffset]
  | pci | fscc | unknown =>
      simp [fastcomEnableTermination, fastcomDisableTermination,
        fastcomSetTermination, fastcomGetTermination, type]

theorem setSampleRate_keepsToFootprint : KeepsToFootprint port .setSampleRate := by
  intro arg user allocated
  simp only [serialfcIoctl, bind_pure_comp, Program.performs_map]
  cases type : fastcomGetCardType port with
  | pci | pcie | fscc =>
      simp only [fastcomSetSampleRate, type]
      apply storeIfSet_performs
      · simp [fastcomSetSampleRatePci, fastcomSetSampleRatePcie,
          fastcomSetSampleRateFscc, ioread8, iowrite8, type, byteLocation,
          configBase, uartExar4xmode, uartExar8xmode]
      · simp [type]
  | unknown => simp [fastcomSetSampleRate, store, type]

theorem getSampleRate_keepsToFootprint : KeepsToFootprint port .getSampleRate := by
  cases type : fastcomGetCardType port <;> simp [fastcomGetSampleRate, load, type]

theorem setTriggers_keepsToFootprint :
    KeepsToFootprint port .setTxTrigger ∧
      KeepsToFootprint port .setRxTrigger := by
  constructor
  all_goals
    intro arg user allocated
    simp only [serialfcIoctl, bind_pure_comp, Program.performs_map]
    cases type : fastcomGetCardType port with
    | pci | pcie =>
        simp only [fastcomSetTxTrigger, fastcomSetRxTrigger, type]
        apply storeIfSet_performs
        · simp [fastcomSetTxTriggerPci, fastcomSetTxTriggerPcie,
            fastcomSetRxTriggerPci, fastcomSetRxTriggerPcie, setTriggerExar,
            iowrite8, type, byteLocation, configBase, lcrOffset, uartExarTxtrg,
            uartExarRxtrg]
        · simp [type]
    | fscc =>
        simp only [fastcomSetTxTrigger, fastcomSetRxTrigger, type]
        apply storeIfSet_performs
        · simp [fastcomSetTxTriggerFscc, fastcomSetRxTriggerFscc,
            setTriggerFscc, ioread8, iowrite8, type, byteLocation]
        · simp [type]
    | unknown =>
        simp [fastcomSetTxTrigger, fastcomSetRxTrigger, type, eprotonosupport]

theorem getTriggers_keepsToFootprint :
    KeepsToFootprint port .getTxTrigger ∧
      KeepsToFootprint port .getRxTrigger := by
  cases type : fastcomGetCardType port with
  | pci | pcie =>
      simp [fastcomGetTxTrigger, fastcomGetRxTrigger, load, type]
  | fscc =>
      simp [fastcomGetTxTrigger, fastcomGetRxTrigger, fastcomGetTxTriggerFscc,
        fastcomGetRxTriggerFscc, getTriggerFscc, ioread8, iowrite8, loadAcr,
        type, byteLocation]
  | unknown => simp [fastcomGetTxTrigger, fastcomGetRxTrigger, type]

theorem setClockBits_keepsToFootprint : KeepsToFootprint port .setClockBits := by
  intro arg user allocated
  simp only [serialfcIoctl, bind_pure_comp, Program.performs_map]
  cases type : fastcomGetCardType port with
  | pci =>
      simp only [fastcomSetClockBits, type]
      apply setClockBitsPci_performs
      · simp [type, byteLocation, configBase, mpiolvlOffset]
      · simp [type, byteLocation, configBase, mpiolvlOffset]
  | fscc =>
      simp only [fastcomSetClockBits, type]
      apply setClockBitsFscc_performs
      · simp [type]
      · simp [type]
      · simp [type]
  | pcie | unknown => simp [fastcomSetClockBits, type]

theorem isochronous_keepsToFootprint :
    KeepsToFootprint port .enableIsochronous ∧
      KeepsToFootprint port .disableIsochronous ∧
      KeepsToFootprint port .getIsochronous := by
  cases type : fastcomGetCardType port with
  | fscc =>
      simp [fastcomEnableIsochronous, fastcomDisableIsochronous,
        fastcomSetIsochronous, fastcomSetIsochronousFscc, fastcomGetIsochronous,
        fastcomGetIsochronousFscc, ioread8, iowrite8, loadAcr, type,
        byteLocation]
  | pci | pcie | unknown =>
      simp [fastcomEnableIsochronous, fastcomDisableIsochronous,
        fastcomSetIsochronous, fastcomGetIsochronous, type]

theorem externalTransmit_keepsToFootprint :
    KeepsToFootprint port .enableExternalTransmit ∧
      KeepsToFootprint port .disableExternalTransmit ∧
      KeepsToFootprint port .getExternalTransmit := by
  cases type : fastcomGetCardType port with
  | fscc =>
      simp [fastcomEnableExternalTransmit, fastcomDisableExternalTransmit,
        fastcomSetExternalTransmit, fastcomSetExternalTransmitFscc,
        fastcomGetExternalTransmit, fastcomGetExternalTransmitFscc, ioread8,
        iowrite8, loadAcr, type, byteLocation]
  | pci | pcie | unknown =>
      simp [fastcomEnableExternalTransmit, fastcomDisableExternalTransmit,
        fastcomSetExternalTransmit, fastcomGetExternalTransmit, type]

theorem frameLength_keepsToFootprint :
    KeepsToFootprint port .setFrameLength ∧
      KeepsToFootprint port .getFrameLength := by
  cases type : fastcomGetCardType port with
  | fscc =>
      simp [fastcomSetFrameLength, fastcomSetFrameLengthFscc,
        fastcomGetFrameLength, fastcomGetFrameLengthFscc, fsccGetFrev, ioread8,
        iowrite8, ioread32, loadAcr, type, byteLocation]
  | pci | pcie | unknown =>
      simp [fastcomSetFrameLength, fastcomGetFrameLength, type]

theorem setBaudRate_keepsToFootprint : KeepsToFootprint port .setBaudRate := by
  intro arg user allocated
  simp only [serialfcIoctl, bind_pure_comp, Program.performs_map]
  cases type : fastcomGetCardType port with
  | pcie =>
      simp only [fastcomSetBaudRate, type]
      apply pcieSetBaudRate_performs
      · simp [type]
      · intro offset line
        simp [type, byteLocation_line, line]
      · intro offset line value
        simp [type, byteLocation_line, line]
  | pci | fscc | unknown => simp [fastcomSetBaudRate, type]

theorem getBaudRate_keepsToFootprint : KeepsToFootprint port .getBaudRate := by
  intro arg user allocated
  simp only [serialfcIoctl, bind_pure_comp, Program.performs_map]
  cases type : fastcomGetCardType port with
  | pcie =>
      simp only [fastcomGetBaudRate, type]
      apply pcieGetBaudRate_performs
      · simp [type]
      · intro offset line
        simp [type, byteLocation_line, line]
      · intro offset line value
        simp [type, byteLocation_line, line]
  | pci | fscc | unknown => simp [fastcomGetBaudRate, type]

theorem serialfcIoctl_keepsToFootprint (command : Command) :
    KeepsToFootprint port command := by
  cases command with
  | enableRs485 => exact (rs485_keepsToFootprint port).1
  | disableRs485 => exact (rs485_keepsToFootprint port).2.1
  | getRs485 => exact (rs485_keepsToFootprint port).2.2
  | enableEchoCancel => exact (echoCancel_keepsToFootprint port).1
  | disableEchoCancel => exact (echoCancel_keepsToFootprint port).2.1
  | getEchoCancel => exact (echoCancel_keepsToFootprint port).2.2
  | enableTermination => exact (termination_keepsToFootprint port).1
  | disableTermination => exact (termination_keepsToFootprint port).2.1
  | getTermination => exact (termination_keepsToFootprint port).2.2
  | setSampleRate => exact setSampleRate_keepsToFootprint port
  | getSampleRate => exact getSampleRate_keepsToFootprint port
  | setTxTrigger => exact (setTriggers_keepsToFootprint port).1
  | getTxTrigger => exact (getTriggers_keepsToFootprint port).1
  | setRxTrigger => exact (setTriggers_keepsToFootprint port).2
  | getRxTrigger => exact (getTriggers_keepsToFootprint port).2
  | setClockBits => exact setClockBits_keepsToFootprint port
  | enableIsochronous => exact (isochronous_keepsToFootprint port).1
  | disableIsochronous => exact (isochronous_keepsToFootprint port).2.1
  | getIsochronous => exact (isochronous_keepsToFootprint port).2.2
  | enableExternalTransmit => exact (externalTransmit_keepsToFootprint port).1
  | disableExternalTransmit =>
      exact (externalTransmit_keepsToFootprint port).2.1
  | getExternalTransmit => exact (externalTransmit_keepsToFootprint port).2.2
  | setFrameLength => exact (frameLength_keepsToFootprint port).1
  | getFrameLength => exact (frameLength_keepsToFootprint port).2
  | setBaudRate => exact setBaudRate_keepsToFootprint port
  | getBaudRate => exact getBaudRate_keepsToFootprint port
  -- The rest of the handler is about memory only.
  | setClockRate | getCardType | enable9bit | disable9bit | get9bit
  | enableFixedBaudRate | disableFixedBaudRate | getFixedBaudRate | getDevInfo
  | unknown => exact fun _ _ _ => trivial

end Handler

end SerialFc
