import SerialFc.Foundation.CommandNumber
import SerialFc.Interface.Ioctl

/-! # The numbers of the commands

`serialfc.h` gives each command its number. Four of them depend on whether
`RELEASE_PREVIEW` is defined, and those with a pointer or an `unsigned long` on
the word size. Driver and program each come with a header of their own, and only
programs of the driver's word size come to its handler.
-/

namespace SerialFc

/-! ## The header -/

def serialfcIoctlMagic : BitVec 8 := 0x19

/-- What the numbers depend on. `wordSize` is the size of a pointer and of an
`unsigned long`. -/
structure Build where
  releasePreview : Bool
  wordSize : BitVec 14
  deriving DecidableEq

def unsignedSize : BitVec 14 := 4

def clockBitsSize : BitVec 14 := 20

def Command.number (build : Build) : Command → Option CommandNumber
  | .enableRs485 => some (.io serialfcIoctlMagic 0)
  | .disableRs485 => some (.io serialfcIoctlMagic 1)
  | .getRs485 => some (.ior serialfcIoctlMagic 2 build.wordSize)
  | .enableEchoCancel => some (.io serialfcIoctlMagic 3)
  | .disableEchoCancel => some (.io serialfcIoctlMagic 4)
  | .getEchoCancel => some (.ior serialfcIoctlMagic 5 build.wordSize)
  | .enableTermination => some (.io serialfcIoctlMagic 6)
  | .disableTermination => some (.io serialfcIoctlMagic 7)
  | .getTermination => some (.ior serialfcIoctlMagic 8 build.wordSize)
  | .setSampleRate => some (.iow serialfcIoctlMagic 9 unsignedSize)
  | .getSampleRate => some (.ior serialfcIoctlMagic 10 build.wordSize)
  | .setTxTrigger => some (.iow serialfcIoctlMagic 11 unsignedSize)
  | .getTxTrigger => some (.ior serialfcIoctlMagic 12 build.wordSize)
  | .setRxTrigger => some (.iow serialfcIoctlMagic 13 unsignedSize)
  | .getRxTrigger => some (.ior serialfcIoctlMagic 14 build.wordSize)
  | .setClockRate => some (.iow serialfcIoctlMagic 15 unsignedSize)
  | .enableIsochronous => some (.iow serialfcIoctlMagic 16 unsignedSize)
  | .disableIsochronous => some (.io serialfcIoctlMagic 17)
  | .getIsochronous => some (.ior serialfcIoctlMagic 18 build.wordSize)
  | .enableExternalTransmit => some (.iow serialfcIoctlMagic 19 unsignedSize)
  | .disableExternalTransmit => some (.io serialfcIoctlMagic 20)
  | .getExternalTransmit => some (.ior serialfcIoctlMagic 21 build.wordSize)
  | .setFrameLength => some (.iow serialfcIoctlMagic 22 unsignedSize)
  | .getFrameLength => some (.ior serialfcIoctlMagic 23 build.wordSize)
  | .getCardType => some (.ior serialfcIoctlMagic 24 build.wordSize)
  | .enable9bit => some (.io serialfcIoctlMagic 25)
  | .disable9bit => some (.io serialfcIoctlMagic 26)
  | .get9bit => some (.ior serialfcIoctlMagic 27 build.wordSize)
  | .setClockBits =>
      if build.releasePreview then some (.iow serialfcIoctlMagic 31 clockBitsSize)
      else some (.iow serialfcIoctlMagic 28 clockBitsSize)
  | .enableFixedBaudRate =>
      if build.releasePreview then some (.iow serialfcIoctlMagic 28 unsignedSize)
      else some (.iow serialfcIoctlMagic 29 unsignedSize)
  | .disableFixedBaudRate =>
      if build.releasePreview then some (.io serialfcIoctlMagic 29)
      else some (.io serialfcIoctlMagic 30)
  | .getFixedBaudRate =>
      if build.releasePreview then some (.ior serialfcIoctlMagic 30 build.wordSize)
      else some (.ior serialfcIoctlMagic 31 build.wordSize)
  | .getDevInfo => some (.ior serialfcIoctlMagic 32 build.wordSize)
  | .getBaudRate => some (.ior serialfcIoctlMagic 33 build.wordSize)
  | .setBaudRate => some (.iow serialfcIoctlMagic 34 build.wordSize)
  | .unknown => none

/-! ## The handler's switch -/

def switchCases : List Command :=
  [.enableRs485, .disableRs485, .getRs485, .enableEchoCancel, .disableEchoCancel,
    .getEchoCancel, .enableTermination, .disableTermination, .getTermination,
    .setSampleRate, .getSampleRate, .setTxTrigger, .getTxTrigger, .setRxTrigger,
    .getRxTrigger, .setClockRate, .setClockBits, .enableIsochronous,
    .disableIsochronous, .getIsochronous, .enableExternalTransmit,
    .disableExternalTransmit, .getExternalTransmit, .setFrameLength, .getFrameLength,
    .getCardType, .enable9bit, .disable9bit, .get9bit, .setBaudRate, .getBaudRate,
    .enableFixedBaudRate, .disableFixedBaudRate, .getFixedBaudRate, .getDevInfo]

def Build.command (build : Build) (cmd : BitVec 32) : Command :=
  (selectCase (Command.number build) switchCases cmd).getD .unknown

/-! ## One meaning -/

/-- What a number stands for, in whichever header it does. -/
def CommandNumber.command (number : CommandNumber) : Command :=
  match number.nr.toNat with
  | 0 => .enableRs485
  | 1 => .disableRs485
  | 2 => .getRs485
  | 3 => .enableEchoCancel
  | 4 => .disableEchoCancel
  | 5 => .getEchoCancel
  | 6 => .enableTermination
  | 7 => .disableTermination
  | 8 => .getTermination
  | 9 => .setSampleRate
  | 10 => .getSampleRate
  | 11 => .setTxTrigger
  | 12 => .getTxTrigger
  | 13 => .setRxTrigger
  | 14 => .getRxTrigger
  | 15 => .setClockRate
  | 16 => .enableIsochronous
  | 17 => .disableIsochronous
  | 18 => .getIsochronous
  | 19 => .enableExternalTransmit
  | 20 => .disableExternalTransmit
  | 21 => .getExternalTransmit
  | 22 => .setFrameLength
  | 23 => .getFrameLength
  | 24 => .getCardType
  | 25 => .enable9bit
  | 26 => .disable9bit
  | 27 => .get9bit
  | 32 => .getDevInfo
  | 33 => .getBaudRate
  | 34 => .setBaudRate
  -- The four that were renumbered differ in direction or size.
  | _ =>
      if number.dir = 0 then .disableFixedBaudRate
      else if number.dir = 2 then .getFixedBaudRate
      else if number.size = clockBitsSize then .setClockBits
      else .enableFixedBaudRate

theorem number_command {build : Build} {command : Command} {number : CommandNumber}
    (isNumber : command.number build = some number) : number.command = command := by
  cases command with
  | setClockBits | enableFixedBaudRate | disableFixedBaudRate | getFixedBaudRate =>
      simp only [Command.number] at isNumber
      split at isNumber
      all_goals
        cases isNumber
        rfl
  | unknown => cases isNumber
  | _ =>
      cases isNumber
      rfl

theorem labelsDistinct (build : Build) :
    LabelsDistinct (Command.number build) switchCases := by
  intro first _ second _ number isFirst isSecond
  rw [← number_command isFirst, number_command isSecond]

theorem mem_switchCases {command : Command} (known : command ≠ .unknown) :
    command ∈ switchCases := by
  cases command with
  | unknown => exact absurd rfl known
  | _ => decide

theorem Build.command_eq_iff {build : Build} {cmd : BitVec 32} {command : Command}
    (known : command ≠ .unknown) :
    build.command cmd = command ↔ command.number build = some (.decode cmd) := by
  have selects : build.command cmd = command ↔
      selectCase (Command.number build) switchCases cmd = some command := by
    rw [Build.command]
    cases selectCase (Command.number build) switchCases cmd with
    | none => simp [Ne.symm known]
    | some other => simp
  rw [selects, selectCase_eq_some_iff (labelsDistinct build)]
  exact and_iff_right (mem_switchCases known)

/-! ## Headers that differ -/

/-- The macros under `RELEASE_PREVIEW`. -/
def Command.renumbered : Command → Bool
  | .setClockBits | .enableFixedBaudRate | .disableFixedBaudRate
  | .getFixedBaudRate => true
  | _ => false

/-- The macros with a pointer or an `unsigned long`. -/
def Command.wordSized : Command → Bool
  | .getRs485 | .getEchoCancel | .getTermination | .getSampleRate | .getTxTrigger
  | .getRxTrigger | .getIsochronous | .getExternalTransmit | .getFrameLength
  | .getCardType | .get9bit | .getFixedBaudRate | .getDevInfo | .getBaudRate
  | .setBaudRate => true
  | _ => false

def Build.Shares (driver program : Build) (command : Command) : Prop :=
  (command.renumbered = true → driver.releasePreview = program.releasePreview) ∧
    (command.wordSized = true → driver.wordSize = program.wordSize)

instance (driver program : Build) (command : Command) :
    Decidable (driver.Shares program command) :=
  inferInstanceAs (Decidable (_ ∧ _))

theorem Build.shares_iff (driver program : Build) (command : Command) :
    driver.Shares program command ↔ command.number driver = command.number program := by
  rcases driver with ⟨driverPreview, driverSize⟩
  rcases program with ⟨programPreview, programSize⟩
  cases command with
  | setClockBits | enableFixedBaudRate | disableFixedBaudRate | getFixedBaudRate =>
      cases driverPreview <;> cases programPreview <;>
        simp [Build.Shares, Command.renumbered, Command.wordSized, Command.number,
          CommandNumber.io, CommandNumber.iow, CommandNumber.ior]
  | _ =>
      simp [Build.Shares, Command.renumbered, Command.wordSized, Command.number,
        CommandNumber.iow, CommandNumber.ior]

section Known

variable {driver program : Build} {cmd : BitVec 32}
  (known : program.command cmd ≠ .unknown)
include known

theorem Build.command_of_shares
    (shares : driver.Shares program (program.command cmd)) :
    driver.command cmd = program.command cmd := by
  rw [Build.command_eq_iff known, (driver.shares_iff program _).mp shares]
  exact (Build.command_eq_iff known).mp rfl

theorem Build.command_of_not_shares
    (different : ¬driver.Shares program (program.command cmd)) :
    driver.command cmd = .unknown := by
  have programNumber := (Build.command_eq_iff known).mp rfl
  by_contra knownToo
  have driverNumber := (Build.command_eq_iff knownToo).mp rfl
  have same : driver.command cmd = program.command cmd := by
    rw [← number_command driverNumber, number_command programNumber]
  rw [same, ← programNumber] at driverNumber
  exact different ((driver.shares_iff program _).mpr driverNumber)

end Known

/-! ## The file operations -/

abbrev IoctlEntry :=
  Port → BitVec 32 → BitVec 64 → UserSpace → Bool → Driver (Int × UserMemory)

structure FileOperations where
  unlockedIoctl : IoctlEntry
  compatIoctl : Option IoctlEntry

/-- `serialfc_fops` has no entry for programs of another word size. -/
def serialfcFops (driver : Build) : FileOperations where
  unlockedIoctl port cmd arg user allocated :=
    serialfcIoctl port arg user allocated (driver.command cmd)
  compatIoctl := none

/-- The kernel, of the driver's word size, passes an ioctl on. -/
def Build.ioctl (driver program : Build) : IoctlEntry :=
  if program.wordSize = driver.wordSize then (serialfcFops driver).unlockedIoctl
  else
    (serialfcFops driver).compatIoctl.getD fun _ _ _ user _ =>
      pure (-enotty, user.memory)

/-- The ioctls of the program come to the handler, and its header has the
command under the driver's number. -/
def Build.Takes (driver program : Build) (command : Command) : Prop :=
  program.wordSize = driver.wordSize ∧ driver.Shares program command

instance (driver program : Build) (command : Command) :
    Decidable (driver.Takes program command) :=
  inferInstanceAs (Decidable (_ ∧ _))

section Passed

variable {driver program : Build} {cmd : BitVec 32}
  (known : program.command cmd ≠ .unknown)
include known

theorem Build.ioctl_of_takes (takes : driver.Takes program (program.command cmd))
    (port : Port) (arg : BitVec 64) (user : UserSpace) (allocated : Bool) :
    driver.ioctl program port cmd arg user allocated =
      serialfcIoctl port arg user allocated (program.command cmd) := by
  rw [Build.ioctl, if_pos takes.1, ← Build.command_of_shares known takes.2]
  rfl

theorem Build.ioctl_of_not_takes
    (refuses : ¬driver.Takes program (program.command cmd))
    (port : Port) (arg : BitVec 64) (user : UserSpace) (allocated : Bool) :
    driver.ioctl program port cmd arg user allocated =
      pure (-enotty, user.memory) := by
  rw [Build.ioctl]
  by_cases sameSize : program.wordSize = driver.wordSize
  · have different : ¬driver.Shares program (program.command cmd) :=
      fun shares => refuses ⟨sameSize, shares⟩
    rw [if_pos sameSize]
    simp only [serialfcFops, Build.command_of_not_shares known different]
    rfl
  · rw [if_neg sameSize]
    rfl

end Passed

end SerialFc
