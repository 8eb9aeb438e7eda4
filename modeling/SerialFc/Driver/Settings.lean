import SerialFc.Driver.Registers

/-! # Port settings

The setters and getters of `utils.c`. A status is zero or a negated error
number. A getter takes the old contents of its output argument, because on an
error, and for an isochronous register value it does not know, it leaves that
argument as it was.
-/

namespace SerialFc

/-! ## Sample rate -/

def fastcomSetSampleRatePci (port : Port) (value : BitVec 32) : Driver Int :=
  if value ≠ 8 ∧ value ≠ 16 then
    pure (-einval)
  else do
    let current8xMode ← ioread8 port uartExar8xmode
    let new8xMode :=
      if value = 8 then current8xMode ||| (1#8 <<< port.channel)
      else current8xMode &&& ~~~(1#8 <<< port.channel)
    iowrite8 port uartExar8xmode new8xMode
    pure 0

def fastcomSetSampleRatePcie (port : Port) (value : BitVec 32) : Driver Int :=
  if value ≠ 4 ∧ value ≠ 8 ∧ value ≠ 16 then
    pure (-einval)
  else do
    let current4xMode ← ioread8 port uartExar4xmode
    let current8xMode ← ioread8 port uartExar8xmode
    let new4xMode :=
      if value = 4 then current4xMode ||| (1#8 <<< port.channel)
      else current4xMode &&& ~~~(1#8 <<< port.channel)
    let new8xMode :=
      if value = 8 then current8xMode ||| (1#8 <<< port.channel)
      else current8xMode &&& ~~~(1#8 <<< port.channel)
    iowrite8 port uartExar4xmode new4xMode
    iowrite8 port uartExar8xmode new8xMode
    pure 0

def fastcomSetSampleRateFscc (port : Port) (value : BitVec 32) : Driver Int :=
  if value < 4 ∨ value > 16 then
    pure (-einval)
  else do
    let origLcr ← ioread8 port lcrOffset
    iowrite8 port lcrOffset 0
    iowrite8 port sprOffset tcrOffset
    iowrite8 port icrOffset (value.setWidth 8)
    iowrite8 port lcrOffset origLcr
    pure 0

def fastcomSetSampleRate (port : Port) (value : BitVec 32) : Driver Int := do
  let status ← match fastcomGetCardType port with
    | .pci => fastcomSetSampleRatePci port value
    | .pcie => fastcomSetSampleRatePcie port value
    | .fscc => fastcomSetSampleRateFscc port value
    -- Set for the non Fastcom ports as well.
    | .unknown => pure 0
  if status = 0 then
    store port .sampleRate value
  pure status

def fastcomGetSampleRate (port : Port) : Driver (BitVec 32) :=
  load port .sampleRate

/-! ## Trigger levels

The two trigger levels differ in the register, the shadow field and nothing
else. -/

def setTriggerExar (limit : BitVec 32) (offset : Nat) (port : Port)
    (value : BitVec 32) : Driver Int :=
  if value > limit then
    pure (-einval)
  else do
    iowrite8 port offset (value.setWidth 8)
    pure 0

/-- The 16C950 setters write the level through the indexed register set. -/
def setTriggerFscc (index : BitVec 8) (port : Port) (value : BitVec 32) :
    Driver Int :=
  if value > 127 then
    pure (-einval)
  else do
    let origLcr ← ioread8 port lcrOffset
    iowrite8 port lcrOffset 0
    iowrite8 port sprOffset index
    iowrite8 port icrOffset (value.setWidth 8)
    iowrite8 port lcrOffset origLcr
    pure 0

def getTriggerFscc (index : BitVec 8) (port : Port) : Driver (BitVec 32) := do
  let origLcr ← ioread8 port lcrOffset
  iowrite8 port lcrOffset 0
  iowrite8 port sprOffset acrOffset
  iowrite8 port icrOffset ((← loadAcr port) ||| 0x40)
  iowrite8 port sprOffset index
  let level ← ioread8 port icrOffset
  let value := (level &&& 0x7f).setWidth 32
  iowrite8 port sprOffset acrOffset
  iowrite8 port icrOffset (← loadAcr port)
  iowrite8 port lcrOffset origLcr
  pure value

def fastcomSetTxTriggerPci := setTriggerExar 64 uartExarTxtrg
def fastcomSetTxTriggerPcie := setTriggerExar 255 uartExarTxtrg
def fastcomSetTxTriggerFscc := setTriggerFscc ttlOffset
def fastcomGetTxTriggerFscc := getTriggerFscc ttlOffset

def fastcomSetRxTriggerPci := setTriggerExar 64 uartExarRxtrg
def fastcomSetRxTriggerPcie := setTriggerExar 255 uartExarRxtrg
def fastcomSetRxTriggerFscc := setTriggerFscc rtlOffset
def fastcomGetRxTriggerFscc := getTriggerFscc rtlOffset

def fastcomSetTxTrigger (port : Port) (value : BitVec 32) : Driver Int := do
  let status ← match fastcomGetCardType port with
    | .pci => fastcomSetTxTriggerPci port value
    | .pcie => fastcomSetTxTriggerPcie port value
    | .fscc => fastcomSetTxTriggerFscc port value
    | .unknown => pure (-eprotonosupport)
  if status = 0 then
    store port .txTrigger value
  pure status

def fastcomGetTxTrigger (port : Port) (value : BitVec 32) :
    Driver (Int × BitVec 32) := do
  match fastcomGetCardType port with
  | .pci | .pcie => pure (0, ← load port .txTrigger)
  | .fscc => pure (0, ← fastcomGetTxTriggerFscc port)
  | .unknown => pure (-eprotonosupport, value)

def fastcomSetRxTrigger (port : Port) (value : BitVec 32) : Driver Int := do
  let status ← match fastcomGetCardType port with
    | .pci => fastcomSetRxTriggerPci port value
    | .pcie => fastcomSetRxTriggerPcie port value
    | .fscc => fastcomSetRxTriggerFscc port value
    | .unknown => pure (-eprotonosupport)
  if status = 0 then
    store port .rxTrigger value
  pure status

def fastcomGetRxTrigger (port : Port) (value : BitVec 32) :
    Driver (Int × BitVec 32) := do
  match fastcomGetCardType port with
  | .pci | .pcie => pure (0, ← load port .rxTrigger)
  | .fscc => pure (0, ← fastcomGetRxTriggerFscc port)
  | .unknown => pure (-eprotonosupport, value)

/-! ## RS485 -/

def fastcomSetRs485Pci (port : Port) (enable : BitVec 32) : Driver Unit := do
  let currentFctr ← ioread8 port uartExarFctr
  let currentMpioLvl ← ioread8 port mpiolvlOffset
  let newFctr :=
    if enable ≠ 0 then currentFctr ||| 0x20 else currentFctr &&& ~~~0x20
  -- The driver enables are active low, and the shift drops out of the byte.
  let newMpioLvl :=
    if enable ≠ 0 then currentMpioLvl &&& ~~~(0x8#8 <<< port.channel)
    else currentMpioLvl ||| (0x8#8 <<< port.channel)
  iowrite8 port mpiolvlOffset newMpioLvl
  iowrite8 port uartExarFctr newFctr

def fastcomSetRs485Pcie (port : Port) (enable : BitVec 32) : Driver Unit := do
  let currentMcr ← ioread8 port mcrOffset
  let currentFctr ← ioread8 port uartExarFctr
  let newMcr :=
    if enable ≠ 0 then currentMcr ||| 0x04 else currentMcr &&& ~~~0x04
  let newFctr :=
    if enable ≠ 0 then currentFctr ||| 0x20 else currentFctr &&& ~~~0x20
  iowrite8 port mcrOffset newMcr
  iowrite8 port uartExarFctr newFctr

def rs485BitMask (channel : Nat) : BitVec 32 :=
  match channel with
  | 0 => 0x00040000
  | 1 => 0x00400000
  | _ => 0x00000000

def fastcomSetRs485Fscc (port : Port) (enable : BitVec 32) : Driver Unit := do
  let origLcr ← ioread8 port lcrOffset
  let currentFcr ← ioread32 .bar2 0
  iowrite8 port lcrOffset 0
  iowrite8 port sprOffset acrOffset
  let bitMask := rs485BitMask port.channel
  let acr ← loadAcr port
  storeAcr port (if enable ≠ 0 then acr ||| 0x10 else acr &&& ~~~0x10)
  let newFcr :=
    if enable ≠ 0 then currentFcr ||| bitMask else currentFcr &&& ~~~bitMask
  iowrite8 port icrOffset (← loadAcr port)
  iowrite32 .bar2 0 newFcr
  iowrite8 port lcrOffset origLcr

def fastcomSetRs485 (port : Port) (enable : BitVec 32) : Driver Int := do
  match fastcomGetCardType port with
  | .pci => do
      fastcomSetRs485Pci port enable
      pure 0
  | .pcie => do
      fastcomSetRs485Pcie port enable
      pure 0
  | .fscc => do
      fastcomSetRs485Fscc port enable
      pure 0
  | .unknown => pure (-eprotonosupport)

def fastcomGetRs485Pci (port : Port) : Driver (BitVec 32) := do
  let currentFctr ← ioread8 port uartExarFctr
  pure (if currentFctr &&& 0x20 ≠ 0 then 1 else 0)

def fastcomGetRs485Fscc (port : Port) : Driver (BitVec 32) := do
  let bitMask := rs485BitMask port.channel
  let currentFcr ← ioread32 .bar2 0
  let acr ← loadAcr port
  let dtrEnableActive := decide (acr &&& 0x10 ≠ 0)
  let transmitter485Active := decide (currentFcr &&& bitMask ≠ 0)
  pure (if dtrEnableActive && transmitter485Active then 1 else 0)

def fastcomGetRs485 (port : Port) (enabled : BitVec 32) :
    Driver (Int × BitVec 32) := do
  match fastcomGetCardType port with
  | .pci | .pcie => pure (0, ← fastcomGetRs485Pci port)
  | .fscc => pure (0, ← fastcomGetRs485Fscc port)
  | .unknown => pure (-eprotonosupport, enabled)

/-- Returns nothing: the status of the setter is dropped. -/
def fastcomEnableRs485 (port : Port) : Driver Unit := do
  let _ ← fastcomSetRs485 port 1

def fastcomDisableRs485 (port : Port) : Driver Unit := do
  let _ ← fastcomSetRs485 port 0

/-! ## Isochronous mode -/

/-- The CKS byte of a mode: receive clock source, then transmit source. -/
def isochronousCks (mode : BitVec 32) : BitVec 8 :=
  let newCks : BitVec 8 :=
    if mode = 2 ∨ mode = 3 ∨ mode = 4 ∨ mode = 10 then 0x09
    else if mode = 5 ∨ mode = 6 ∨ mode = 7 then 0x0a
    else if mode = 8 then 0x0b
    else 0
  if mode = 0 ∨ mode = 3 ∨ mode = 6 ∨ mode = 8 then newCks ||| 0xd0
  else if mode = 1 ∨ mode = 4 ∨ mode = 7 then newCks ||| 0x90
  else if mode = 9 ∨ mode = 10 then newCks ||| 0x10
  else newCks

def isochronousMdm (mode : BitVec 32) : BitVec 8 :=
  let newMdm : BitVec 8 :=
    if mode = 2 ∨ mode = 3 ∨ mode = 4 ∨ mode = 10 then 0x02 else 0
  if mode = 0 ∨ mode = 3 ∨ mode = 6 ∨ mode = 8 then newMdm ||| 0x04
  else newMdm

/-- The mode whose CKS byte was read; other bytes leave `mode` alone. -/
def isochronousMode (cks : BitVec 8) (mode : BitVec 32) : BitVec 32 :=
  if cks = 0x00 then -1
  else if cks = 0xd0 then 0
  else if cks = 0x90 then 1
  else if cks = 0x09 then 2
  else if cks = 0xd9 then 3
  else if cks = 0x99 then 4
  else if cks = 0x0a then 5
  else if cks = 0xda then 6
  else if cks = 0x9a then 7
  else if cks = 0xdb then 8
  else if cks = 0x10 then 9
  else if cks = 0x19 then 10
  else mode

def fastcomSetIsochronousFscc (port : Port) (mode : BitVec 32) : Driver Int :=
  if mode.toInt > 10 ∨ mode.toInt < -1 then
    pure (-einval)
  else do
    let origLcr ← ioread8 port lcrOffset
    iowrite8 port lcrOffset 0
    iowrite8 port sprOffset mdmOffset
    iowrite8 port icrOffset (isochronousMdm mode)
    iowrite8 port sprOffset cksOffset
    iowrite8 port icrOffset (isochronousCks mode)
    iowrite8 port lcrOffset origLcr
    pure 0

def fastcomGetIsochronousFscc (port : Port) (mode : BitVec 32) :
    Driver (BitVec 32) := do
  let origLcr ← ioread8 port lcrOffset
  iowrite8 port lcrOffset 0
  iowrite8 port sprOffset acrOffset
  iowrite8 port icrOffset ((← loadAcr port) ||| 0x40)
  iowrite8 port sprOffset cksOffset
  let cks ← ioread8 port icrOffset
  let mode := isochronousMode cks mode
  iowrite8 port sprOffset acrOffset
  iowrite8 port icrOffset (← loadAcr port)
  iowrite8 port lcrOffset origLcr
  pure mode

def fastcomSetIsochronous (port : Port) (mode : BitVec 32) : Driver Int :=
  match fastcomGetCardType port with
  | .fscc => fastcomSetIsochronousFscc port mode
  | _ => pure (-eprotonosupport)

def fastcomGetIsochronous (port : Port) (mode : BitVec 32) :
    Driver (Int × BitVec 32) := do
  match fastcomGetCardType port with
  | .fscc => pure (0, ← fastcomGetIsochronousFscc port mode)
  | _ => pure (-eprotonosupport, mode)

def fastcomEnableIsochronous (port : Port) (mode : BitVec 32) : Driver Int :=
  fastcomSetIsochronous port mode

def fastcomDisableIsochronous (port : Port) : Driver Int :=
  fastcomSetIsochronous port (-1)

/-! ## Termination, active low -/

def fastcomSetTerminationPcie (port : Port) (enable : BitVec 32) :
    Driver Unit := do
  let currentMpioLvl ← ioread8 port mpiolvlOffset
  let newMpioLvl :=
    if enable ≠ 0 then currentMpioLvl &&& ~~~(0x1#8 <<< port.channel)
    else currentMpioLvl ||| (0x1#8 <<< port.channel)
  iowrite8 port mpiolvlOffset newMpioLvl

def fastcomGetTerminationPcie (port : Port) : Driver (BitVec 32) := do
  let mpioLvl ← ioread8 port mpiolvlOffset
  pure (if mpioLvl &&& (0x1#8 <<< port.channel) ≠ 0 then 0 else 1)

def fastcomSetTermination (port : Port) (enable : BitVec 32) : Driver Int :=
  match fastcomGetCardType port with
  | .pcie => do
      fastcomSetTerminationPcie port enable
      pure 0
  | _ => pure (-eprotonosupport)

def fastcomGetTermination (port : Port) (enabled : BitVec 32) :
    Driver (Int × BitVec 32) := do
  match fastcomGetCardType port with
  | .pcie => pure (0, ← fastcomGetTerminationPcie port)
  | _ => pure (-eprotonosupport, enabled)

def fastcomEnableTermination (port : Port) : Driver Int :=
  fastcomSetTermination port 1

def fastcomDisableTermination (port : Port) : Driver Int :=
  fastcomSetTermination port 0

/-! ## Echo cancel -/

def fastcomSetEchoCancelPci (port : Port) (enable : BitVec 32) :
    Driver Unit := do
  let currentMpioLvl ← ioread8 port mpiolvlOffset
  let newMpioLvl :=
    if enable ≠ 0 then currentMpioLvl ||| 0x80
    else currentMpioLvl &&& ~~~0x80
  iowrite8 port mpiolvlOffset newMpioLvl

def fastcomSetEchoCancelPcie (port : Port) (enable : BitVec 32) :
    Driver Unit := do
  let currentMpioLvlh ← ioread8 port mpiolvlhOffset
  let newMpioLvlh :=
    if enable ≠ 0 then currentMpioLvlh ||| (0x1#8 <<< port.channel)
    else currentMpioLvlh &&& ~~~(0x1#8 <<< port.channel)
  iowrite8 port mpiolvlhOffset newMpioLvlh

def echoCancelBitMask (channel : Nat) : BitVec 32 :=
  match channel with
  | 0 => 0x00010000
  | 1 => 0x00100000
  | _ => 0x00000000

def fastcomSetEchoCancelFscc (port : Port) (enable : BitVec 32) :
    Driver Unit := do
  let currentFcr ← ioread32 .bar2 0
  let bitMask := echoCancelBitMask port.channel
  let newFcr :=
    if enable ≠ 0 then currentFcr ||| bitMask else currentFcr &&& ~~~bitMask
  iowrite32 .bar2 0 newFcr

def fastcomSetEchoCancel (port : Port) (enable : BitVec 32) : Driver Unit :=
  match fastcomGetCardType port with
  | .pci => fastcomSetEchoCancelPci port enable
  | .pcie => fastcomSetEchoCancelPcie port enable
  | .fscc => fastcomSetEchoCancelFscc port enable
  | .unknown => pure ()

def fastcomEnableEchoCancel (port : Port) : Driver Unit :=
  fastcomSetEchoCancel port 1

def fastcomDisableEchoCancel (port : Port) : Driver Unit :=
  fastcomSetEchoCancel port 0

def fastcomGetEchoCancelPci (port : Port) : Driver (BitVec 32) := do
  let mpioLvl ← ioread8 port mpiolvlOffset
  pure (if mpioLvl &&& 0x80 ≠ 0 then 1 else 0)

def fastcomGetEchoCancelPcie (port : Port) : Driver (BitVec 32) := do
  let mpioLvlh ← ioread8 port mpiolvlhOffset
  pure (if mpioLvlh &&& (0x1#8 <<< port.channel) ≠ 0 then 1 else 0)

def fastcomGetEchoCancelFscc (port : Port) : Driver (BitVec 32) := do
  let fcr ← ioread32 .bar2 0
  let bitMask := echoCancelBitMask port.channel
  pure (if fcr &&& bitMask ≠ 0 then 1 else 0)

def fastcomGetEchoCancel (port : Port) (enabled : BitVec 32) :
    Driver (BitVec 32) :=
  match fastcomGetCardType port with
  | .pci => fastcomGetEchoCancelPci port
  | .pcie => fastcomGetEchoCancelPcie port
  | .fscc => fastcomGetEchoCancelFscc port
  | .unknown => pure enabled

/-! ## External transmit -/

def fastcomSetExternalTransmitFscc (port : Port) (numChars : BitVec 32) :
    Driver Int :=
  if numChars > 8191 then
    pure (-einval)
  else do
    let origLcr ← ioread8 port lcrOffset
    iowrite8 port lcrOffset 0
    if numChars ≠ 0 then
      iowrite8 port sprOffset exthOffset
      iowrite8 port icrOffset ((0x80 ||| (numChars >>> 8)).setWidth 8)
      iowrite8 port sprOffset extOffset
      iowrite8 port icrOffset (numChars.setWidth 8)
    else
      iowrite8 port sprOffset exthOffset
      iowrite8 port icrOffset 0x00
      iowrite8 port sprOffset extOffset
      iowrite8 port icrOffset 0x00
    iowrite8 port lcrOffset origLcr
    pure 0

def fastcomGetExternalTransmitFscc (port : Port) : Driver (BitVec 32) := do
  let origLcr ← ioread8 port lcrOffset
  iowrite8 port lcrOffset 0
  iowrite8 port sprOffset acrOffset
  iowrite8 port icrOffset ((← loadAcr port) ||| 0x40)
  iowrite8 port sprOffset extOffset
  let ext ← ioread8 port icrOffset
  iowrite8 port sprOffset exthOffset
  let exth ← ioread8 port icrOffset
  let numChars := ((exth &&& 0x1f).setWidth 32 <<< 8) + ext.setWidth 32
  iowrite8 port sprOffset acrOffset
  iowrite8 port icrOffset (← loadAcr port)
  iowrite8 port lcrOffset origLcr
  pure numChars

def fastcomSetExternalTransmit (port : Port) (numChars : BitVec 32) :
    Driver Int :=
  match fastcomGetCardType port with
  | .fscc => fastcomSetExternalTransmitFscc port numChars
  | _ => pure (-eprotonosupport)

def fastcomGetExternalTransmit (port : Port) (numChars : BitVec 32) :
    Driver (Int × BitVec 32) := do
  match fastcomGetCardType port with
  | .fscc => pure (0, ← fastcomGetExternalTransmitFscc port)
  | _ => pure (-eprotonosupport, numChars)

def fastcomEnableExternalTransmit (port : Port) (numChars : BitVec 32) :
    Driver Int :=
  fastcomSetExternalTransmit port numChars

def fastcomDisableExternalTransmit (port : Port) : Driver Int :=
  fastcomSetExternalTransmit port 0

/-! ## Firmware revision and frame length -/

/-- Address of a channel's VSTR register in BAR 0. -/
def vstrAddress (channel : Nat) : Nat := vstrOffset + channel * 0x80

def fsccGetFrev (port : Port) : Driver (BitVec 8) := do
  pure (((← ioread32 .bar0 (vstrAddress port.channel)) &&& 0x000000ff).setWidth 8)

def fsccGetPrev (port : Port) : Driver (BitVec 8) := do
  let vstr ← ioread32 .bar0 (vstrAddress port.channel)
  pure (((vstr &&& 0x0000ff00) >>> 8).setWidth 8)

def fsccGetPdev (port : Port) : Driver (BitVec 16) := do
  let vstr ← ioread32 .bar0 (vstrAddress port.channel)
  pure (((vstr &&& 0xffff0000) >>> 16).setWidth 16)

def fastcomSetFrameLengthFscc (port : Port) (numChars : BitVec 32) :
    Driver Int :=
  if numChars = 0 ∨ numChars > 256 then
    pure (-einval)
  else do
    let frev ← fsccGetFrev port
    if frev < 0x20 then
      pure (-eprotonosupport)
    else
      let origLcr ← ioread8 port lcrOffset
      iowrite8 port lcrOffset 0
      iowrite8 port sprOffset flrOffset
      iowrite8 port icrOffset ((numChars - 1).setWidth 8)
      iowrite8 port lcrOffset origLcr
      pure 0

def fastcomGetFrameLengthFscc (port : Port) (numChars : BitVec 32) :
    Driver (Int × BitVec 32) := do
  let frev ← fsccGetFrev port
  if frev < 0x20 then
    pure (-eprotonosupport, numChars)
  else
    let origLcr ← ioread8 port lcrOffset
    iowrite8 port lcrOffset 0
    iowrite8 port sprOffset acrOffset
    iowrite8 port icrOffset ((← loadAcr port) ||| 0x40)
    iowrite8 port sprOffset flrOffset
    let flr ← ioread8 port icrOffset
    let numChars := flr.setWidth 32 + 1
    iowrite8 port sprOffset acrOffset
    iowrite8 port icrOffset (← loadAcr port)
    iowrite8 port lcrOffset origLcr
    pure (0, numChars)

def fastcomSetFrameLength (port : Port) (numChars : BitVec 32) : Driver Int :=
  match fastcomGetCardType port with
  | .fscc => fastcomSetFrameLengthFscc port numChars
  | _ => pure (-eprotonosupport)

def fastcomGetFrameLength (port : Port) (numChars : BitVec 32) :
    Driver (Int × BitVec 32) :=
  match fastcomGetCardType port with
  | .fscc => fastcomGetFrameLengthFscc port numChars
  | _ => pure (-eprotonosupport, numChars)

/-! ## 9-bit protocol, clock rate -/

def fastcomSet9bit (_port : Port) (_enable : BitVec 32) : Driver Int :=
  pure (-eprotonosupport)

def fastcomGet9bit (_port : Port) (enabled : BitVec 32) :
    Driver (Int × BitVec 32) :=
  pure (-eprotonosupport, enabled)

def fastcomEnable9bit (port : Port) : Driver Int := fastcomSet9bit port 1

def fastcomDisable9bit (port : Port) : Driver Int := fastcomSet9bit port 0

def fastcomSetClockRate (_port : Port) (_value : BitVec 32) : Driver Int :=
  pure (-eprotonosupport)

/-! ## Asynchronous mode -/

def fsccEnableAsyncMode (port : Port) : Driver Int :=
  if fastcomGetCardType port ≠ .fscc then
    pure (-eprotonosupport)
  else do
    let origFcr ← ioread32 .bar2 0
    if origFcr &&& (0x01000000#32 <<< port.channel) = 0 then
      iowrite32 .bar2 0 (origFcr ||| (0x01000000#32 <<< port.channel))
    pure 0

def fsccDisableAsyncMode (port : Port) : Driver Int :=
  if fastcomGetCardType port ≠ .fscc then
    pure (-eprotonosupport)
  else do
    let origFcr ← ioread32 .bar2 0
    iowrite32 .bar2 0 (origFcr &&& ~~~(0x01000000#32 <<< port.channel))
    pure 0

end SerialFc
