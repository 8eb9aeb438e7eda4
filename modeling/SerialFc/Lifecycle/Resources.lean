import SerialFc.Foundation.Ledger
import SerialFc.Driver.Card

/-! # What cards and ports hold

`card.c` and `port.c` as far as they take resources from the kernel and give
them back. The register accesses of `serialfc_port_new` take none.
-/

namespace SerialFc.Lifecycle

/-- A PCI function as the PCI core knows it: its `struct pci_dev` with the
pointer to it, and whether another driver has claimed it. -/
structure PciFunction where
  pdev : Nat
  pciDev : PciDev
  subdevice : BitVec 16
  claimed : Bool

def fsccFunction (pdev : Nat) : PciFunction :=
  ⟨pdev, ⟨commtechVendorId, fsccId, 0, none⟩, 0, false⟩

/-- Memory is named after what it is for, so that each allocation can fail on
its own. -/
inductive DriverResource
  | enable (pdev : Nat)
  | cardMemory (pdev : Nat)
  | portMemory (minorNumber : Nat)
  | nameMemory (minorNumber : Nat)
  | serialPorts (pdev : Nat)
  | mapping (pdev bar : Nat)
  | deviceNode (minorNumber : Nat)
  | sysfsGroup (minorNumber : Nat)
  | cdev (minorNumber : Nat)
  deriving DecidableEq

abbrev Kernel := Acquisition DriverResource

/-! ## Functions of the kernel -/

inductive Pointer
  | null
  /-- An `ERR_PTR`, which is far from null. -/
  | error
  | valid
  deriving DecidableEq

namespace Kernel

def kmalloc (memory : DriverResource) : Kernel Pointer := do
  pure (if ← acquire memory then .valid else .null)

def kfree (memory : DriverResource) : Kernel Unit := release memory

def pciIomap (pdev bar : Nat) : Kernel Pointer := do
  pure (if ← acquire (.mapping pdev bar) then .valid else .null)

/-- Looks at the board first, which may be null. -/
def pciserialInitPorts (pdev : Nat) (board : Option Nat) : Kernel Pointer :=
  match board with
  | none => .trap
  | some _ => do
      pure (if ← acquire (.serialPorts pdev) then .valid else .error)

def pciserialRemovePorts (pdev : Nat) : Kernel Unit :=
  release (.serialPorts pdev)

def deviceCreate (minorNumber : Nat) : Kernel Pointer := do
  pure (if ← acquire (.deviceNode minorNumber) then .valid else .error)

/-- The attributes of a device go with it. -/
def deviceDestroy (minorNumber : Nat) : Kernel Unit := do
  release (.sysfsGroup minorNumber)
  release (.deviceNode minorNumber)

/-- Looks into the device. Whether the group was created. -/
def sysfsCreateGroup (device : Pointer) (minorNumber : Nat) : Kernel Bool :=
  match device with
  | .valid => acquire (.sysfsGroup minorNumber)
  | .null | .error => .trap

def cdevAdd (minorNumber : Nat) : Kernel Bool := acquire (.cdev minorNumber)

def cdevDel (minorNumber : Nat) : Kernel Unit := release (.cdev minorNumber)

end Kernel

open Kernel

/-! ## Ports -/

/-- A port is known by its minor number; `none` is the null pointer. -/
def serialfcPortNew (minorNumber : Nat) : Kernel (Option Nat) := do
  let port ← kmalloc (.portMemory minorNumber)
  if port = .null then
    pure none
  else
    let name ← kmalloc (.nameMemory minorNumber)
    if name = .null then
      kfree (.portMemory minorNumber)
      pure none
    else
      let device ← deviceCreate minorNumber
      -- `port->device <= 0` compares pointers: an error pointer gets past it.
      if device = .null then
        deviceDestroy minorNumber
        kfree (.nameMemory minorNumber)
        kfree (.portMemory minorNumber)
        pure none
      else
        if ← sysfsCreateGroup device minorNumber then
          if ← cdevAdd minorNumber then
            pure (some minorNumber)
          else
            deviceDestroy minorNumber
            kfree (.nameMemory minorNumber)
            kfree (.portMemory minorNumber)
            pure none
        else
          pure none

def serialfcPortDelete (minorNumber : Nat) : Kernel Unit := do
  deviceDestroy minorNumber
  cdevDel minorNumber
  kfree (.nameMemory minorNumber)
  kfree (.portMemory minorNumber)

/-! ## Cards -/

/-- `struct serialfc_card` as the delete path reads it. -/
structure CardRecord where
  pdev : Nat
  serialPriv : Pointer
  ports : List Nat

def PciFunction.cardType (device : PciFunction) : CardType :=
  fastcomGetCardType2 ⟨device.pciDev, 0⟩

def PciFunction.addrBar (device : PciFunction) : Nat :=
  if device.cardType = .fscc then 1 else 0

/-- Maps `addr`, and on an FSCC card `bar0` and `bar2`. False where
`serialfc_card_new` returns 0. -/
def mapBars (device : PciFunction) : Kernel Bool := do
  let addr ← pciIomap device.pdev device.addrBar
  if addr = .null then
    pure false
  else if device.cardType = .fscc then
    let bar0 ← pciIomap device.pdev 0
    if bar0 = .null then
      pure false
    else
      let bar2 ← pciIomap device.pdev 2
      pure (decide (bar2 ≠ .null))
  else
    pure true

/-- The loop over the ports of the board. Returns the ports that came about
and the next minor number, which goes up for the others as well. -/
def newPorts : Nat → Nat → Kernel (List Nat × Nat)
  | 0, minorNumber => pure ([], minorNumber)
  | remaining + 1, minorNumber => do
      let port ← serialfcPortNew minorNumber
      let (ports, next) ← newPorts remaining (minorNumber + 1)
      pure (port.toList ++ ports, next)

/-- The value of `serial_priv`. Since Linux 3.8 only FSCC cards go through
`8250_pci`. -/
def initSerialPorts (device : PciFunction) : Kernel Pointer :=
  if device.cardType = .fscc then
    pciserialInitPorts device.pdev (boardNumPorts device.pciDev.device)
  else
    pure .null

def finishCard (device : PciFunction) (serialPriv : Pointer)
    (minorNumber : Nat) : Kernel (Option CardRecord × Nat) :=
  match boardNumPorts device.pciDev.device with
  | none => .trap
  | some numPorts => do
      let (ports, next) ← newPorts numPorts minorNumber
      pure (some ⟨device.pdev, serialPriv, ports⟩, next)

/-- `minorNumber` is the static variable of the function, whose new value is
returned. -/
def serialfcCardNew (device : PciFunction) (minorNumber : Nat) :
    Kernel (Option CardRecord × Nat) := do
  let card ← kmalloc (.cardMemory device.pdev)
  if card = .null then
    pure (none, minorNumber)
  else
    let serialPriv ← initSerialPorts device
    if serialPriv = .error then
      pure (none, minorNumber)
    else
      if ← mapBars device then
        finishCard device serialPriv minorNumber
      else
        pure (none, minorNumber)

def deletePorts : List Nat → Kernel Unit
  | [] => pure ()
  | minorNumber :: minorNumbers => do
      serialfcPortDelete minorNumber
      deletePorts minorNumbers

def serialfcCardDelete (card : CardRecord) : Kernel Unit := do
  deletePorts card.ports
  if card.serialPriv ≠ .null then
    pciserialRemovePorts card.pdev
  kfree (.cardMemory card.pdev)

end SerialFc.Lifecycle
