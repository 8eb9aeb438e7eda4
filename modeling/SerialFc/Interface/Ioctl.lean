import SerialFc.Driver.BaudRate
import SerialFc.Driver.ClockBits

/-! # The ioctl handler

`serialfc_ioctl` runs one function of `utils.c` and copies between its own
variables and the caller's memory. A copy can stop after any number of bytes;
what is then missing is the handler's business.
-/

namespace SerialFc

/-! ## User space -/

/-- Memory from the address that the caller passed, byte by byte. -/
abbrev UserMemory := Nat → BitVec 8

/-- The caller's memory, and how many bytes a copy gets through before it
faults. -/
structure UserSpace where
  memory : UserMemory
  copied : Nat

def objectByte (value index : Nat) : BitVec 8 :=
  BitVec.ofNat 8 (value >>> (8 * index))

namespace UserSpace

variable (user : UserSpace)

/-- Returns how many of `size` bytes are not copied, and the new memory. -/
def copyToUser (size value : Nat) : Nat × UserMemory :=
  (size - user.copied, fun index =>
    if index < user.copied ∧ index < size then objectByte value index
    else user.memory index)

/-- Returns how many of the 20 bytes are not copied, and the array: the kernel
clears what it cannot copy. -/
def copyFromUser : Nat × (Fin 20 → BitVec 8) :=
  (20 - user.copied, fun index =>
    if index < user.copied then user.memory index else 0)

/-- The end of a get: `sizeof(tmp)` bytes are copied, and what the copy returns
is only logged. -/
def answer (errorCode : Int) (value : Nat) : Int × UserMemory :=
  let (_, memory) := user.copyToUser 4 value
  (errorCode, memory)

end UserSpace

/-! ## Commands -/

/-- The cases of the handler. Any other command number is `unknown`. -/
inductive Command
  | enableRs485
  | disableRs485
  | getRs485
  | enableEchoCancel
  | disableEchoCancel
  | getEchoCancel
  | enableTermination
  | disableTermination
  | getTermination
  | setSampleRate
  | getSampleRate
  | setTxTrigger
  | getTxTrigger
  | setRxTrigger
  | getRxTrigger
  | setClockRate
  | setClockBits
  | enableIsochronous
  | disableIsochronous
  | getIsochronous
  | enableExternalTransmit
  | disableExternalTransmit
  | getExternalTransmit
  | setFrameLength
  | getFrameLength
  | getCardType
  | enable9bit
  | disable9bit
  | get9bit
  | setBaudRate
  | getBaudRate
  | enableFixedBaudRate
  | disableFixedBaudRate
  | getFixedBaudRate
  | getDevInfo
  | unknown
  deriving DecidableEq

/-- `struct ioctl_get_dev_info_struct` as it lies in memory, lowest byte
first. -/
def devInfo (dev : PciDev) : BitVec 48 :=
  dev.slot.getD 0 ++ dev.bus ++ dev.device ++ dev.vendor

/-- Returns the error code and the caller's memory. `tmp` and `baud_rate`
start at zero; `allocated` says whether `kmalloc` returns memory. -/
def serialfcIoctl (port : Port) (arg : BitVec 64) (user : UserSpace)
    (allocated : Bool) : Command → Driver (Int × UserMemory)
  | .enableRs485 => do
      fastcomEnableRs485 port
      pure (0, user.memory)
  | .disableRs485 => do
      fastcomDisableRs485 port
      pure (0, user.memory)
  | .getRs485 => do
      let (errorCode, tmp) ← fastcomGetRs485 port 0
      pure (user.answer errorCode tmp.toNat)
  | .enableEchoCancel => do
      fastcomEnableEchoCancel port
      pure (0, user.memory)
  | .disableEchoCancel => do
      fastcomDisableEchoCancel port
      pure (0, user.memory)
  | .getEchoCancel => do
      let tmp ← fastcomGetEchoCancel port 0
      pure (user.answer 0 tmp.toNat)
  | .enableTermination => do
      pure (← fastcomEnableTermination port, user.memory)
  | .disableTermination => do
      pure (← fastcomDisableTermination port, user.memory)
  | .getTermination => do
      let (errorCode, tmp) ← fastcomGetTermination port 0
      pure (user.answer errorCode tmp.toNat)
  | .setSampleRate => do
      pure (← fastcomSetSampleRate port (arg.setWidth 32), user.memory)
  | .getSampleRate => do
      let tmp ← fastcomGetSampleRate port
      pure (user.answer 0 tmp.toNat)
  | .setTxTrigger => do
      pure (← fastcomSetTxTrigger port (arg.setWidth 32), user.memory)
  | .getTxTrigger => do
      let (errorCode, tmp) ← fastcomGetTxTrigger port 0
      pure (user.answer errorCode tmp.toNat)
  | .setRxTrigger => do
      pure (← fastcomSetRxTrigger port (arg.setWidth 32), user.memory)
  | .getRxTrigger => do
      let (errorCode, tmp) ← fastcomGetRxTrigger port 0
      pure (user.answer errorCode tmp.toNat)
  | .setClockRate => do
      pure (← fastcomSetClockRate port (arg.setWidth 32), user.memory)
  | .setClockBits => do
      let (_, clockBits) := user.copyFromUser
      pure (← fastcomSetClockBits port clockBits allocated, user.memory)
  | .enableIsochronous => do
      pure (← fastcomEnableIsochronous port (arg.setWidth 32), user.memory)
  | .disableIsochronous => do
      pure (← fastcomDisableIsochronous port, user.memory)
  | .getIsochronous => do
      let (errorCode, tmp) ← fastcomGetIsochronous port 0
      pure (user.answer errorCode tmp.toNat)
  | .enableExternalTransmit => do
      pure (← fastcomEnableExternalTransmit port (arg.setWidth 32), user.memory)
  | .disableExternalTransmit => do
      pure (← fastcomDisableExternalTransmit port, user.memory)
  | .getExternalTransmit => do
      let (errorCode, tmp) ← fastcomGetExternalTransmit port 0
      pure (user.answer errorCode tmp.toNat)
  | .setFrameLength => do
      pure (← fastcomSetFrameLength port (arg.setWidth 32), user.memory)
  | .getFrameLength => do
      let (errorCode, tmp) ← fastcomGetFrameLength port 0
      pure (user.answer errorCode tmp.toNat)
  | .getCardType =>
      pure (user.answer 0 (fastcomGetCardType port).toValue.toNat)
  | .enable9bit => do
      pure (← fastcomEnable9bit port, user.memory)
  | .disable9bit => do
      pure (← fastcomDisable9bit port, user.memory)
  | .get9bit => do
      let (errorCode, tmp) ← fastcomGet9bit port 0
      pure (user.answer errorCode tmp.toNat)
  | .setBaudRate => do
      pure (← fastcomSetBaudRate port arg, user.memory)
  | .getBaudRate => do
      let (errorCode, baudRate) ← fastcomGetBaudRate port 0
      -- The size that is copied is the one of `tmp` here as well.
      pure (user.answer errorCode baudRate.toNat)
  | .enableFixedBaudRate | .disableFixedBaudRate | .getFixedBaudRate =>
      pure (-eprotonosupport, user.memory)
  | .getDevInfo =>
      let (left, memory) := user.copyToUser 6 (devInfo port.card.pciDev).toNat
      pure (if left ≠ 0 then -enodata else 0, memory)
  | .unknown => pure (-enotty, user.memory)

end SerialFc
