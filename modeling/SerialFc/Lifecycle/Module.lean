import SerialFc.Lifecycle.Resources

/-! # Loading the module

`main.c`: the two callbacks of the PCI driver and `serialfc_init`. The list
`serialfc_cards` is passed from function to function; the PCI core, which may
run callbacks in between, is passed the list as well.
-/

namespace SerialFc.Lifecycle

def eio : Int := 5
def enodev : Int := 19

/-! ## Calls of the callbacks -/

inductive DeviceCall
  | pciEnableDevice (device : PciFunction)
  | pciDisableDevice (device : PciFunction)
  | serialfcCardNew (device : PciFunction)
  | serialfcCardDelete (card : CardRecord)

@[reducible] def DeviceCall.Response : DeviceCall → Type
  | .pciEnableDevice _ => Bool
  | .serialfcCardNew _ => Option CardRecord
  | .pciDisableDevice _ | .serialfcCardDelete _ => Unit

abbrev Callback := Program DeviceCall DeviceCall.Response

/-- Returns an error number and `serialfc_cards`. -/
def fcProbe (device : PciFunction) (cards : List CardRecord) :
    Callback (Int × List CardRecord) := do
  if ← .perform (.pciEnableDevice device) .done then
    let newCard ← .perform (.serialfcCardNew device) .done
    -- Without a card the probe is a success all the same.
    pure (0, cards ++ newCard.toList)
  else
    pure (-eio, cards)

def serialfcCardFind (device : PciFunction) (cards : List CardRecord) :
    Option CardRecord :=
  cards.find? fun card => card.pdev = device.pdev

def listDel (device : PciFunction) (cards : List CardRecord) :
    List CardRecord :=
  cards.eraseP fun card => card.pdev = device.pdev

def fcRemove (device : PciFunction) (cards : List CardRecord) :
    Callback (List CardRecord) :=
  match serialfcCardFind device cards with
  | none => pure cards
  | some card => do
      .perform (.serialfcCardDelete card) .done
      .perform (.pciDisableDevice device) .done
      pure (listDel device cards)

/-! ## Devices that the driver is for -/

def serialfcIds : List (BitVec 16) :=
  [fc422_2Pci335Id, fc422_4Pci335Id, fc232_4Pci335Id, fc232_8Pci335Id,
    fc422_4PcieId, fc422_8PcieId] ++ fsccBoardIds

def isSerialfcDevice (device : PciFunction) : Bool :=
  serialfcIds.contains device.pciDev.device

/-- Every entry of `fc_id_table` asks for subsystem device 0, where
`is_serialfc_device` takes any. -/
def matchesIdTable (device : PciFunction) : Bool :=
  decide (device.pciDev.vendor = commtechVendorId) &&
    isSerialfcDevice device && decide (device.subdevice = 0)

/-- What `pci_get_device` goes through in the fallback of `serialfc_init`. -/
def commtechDevices (devices : List PciFunction) : List PciFunction :=
  devices.filter fun device => device.pciDev.vendor = commtechVendorId

/-! ## Initialisation -/

inductive InitCall
  | device (call : DeviceCall)
  | classCreate
  | classDestroy
  | registerChrdev
  | unregisterChrdev
  | pciRegisterDriver (cards : List CardRecord)
  | pciUnregisterDriver (cards : List CardRecord)

/-- `class_create` answers the error of an error pointer, if it is one;
`register_chrdev` the major number or an error. -/
@[reducible] def InitCall.Response : InitCall → Type
  | .device call => call.Response
  | .classCreate => Option Int
  | .registerChrdev => Int
  | .pciRegisterDriver _ => Int × List CardRecord
  | .pciUnregisterDriver _ => List CardRecord
  | .classDestroy | .unregisterChrdev => Unit

abbrev Initialisation := Program InitCall InitCall.Response

/-- The loop over the enumerated devices. Returns `num_devices` and the list,
or `none` in place of the number where the function returns `-EIO`. -/
def initDevices : List PciFunction → Nat → List CardRecord →
    Initialisation (Option Nat × List CardRecord)
  | [], numDevices, cards => pure (some numDevices, cards)
  | device :: devices, numDevices, cards => do
      if isSerialfcDevice device then
        if ← .perform (.device (.pciEnableDevice device)) .done then
          let newCard ← .perform (.device (.serialfcCardNew device)) .done
          initDevices devices (numDevices + 1) (cards ++ newCard.toList)
        else
          pure (none, cards)
      else
        initDevices devices numDevices cards

def initFallback (devices : List PciFunction) (cards : List CardRecord) :
    Initialisation (Int × List CardRecord) := do
  match ← initDevices (commtechDevices devices) 0 cards with
  | (none, cards) => pure (-eio, cards)
  | (some numDevices, cards) =>
      if numDevices = 0 then
        let cards ← .perform (.pciUnregisterDriver cards) .done
        .perform .unregisterChrdev .done
        .perform .classDestroy .done
        pure (-enodev, cards)
      else
        pure (0, cards)

def serialfcInit (devices : List PciFunction) (cards : List CardRecord) :
    Initialisation (Int × List CardRecord) := do
  match ← .perform .classCreate .done with
  | some error => pure (error, cards)
  | none =>
      let major ← .perform .registerChrdev .done
      if major < 0 then
        .perform .classDestroy .done
        pure (major, cards)
      else
        let (errorCode, cards) ← .perform (.pciRegisterDriver cards) .done
        if errorCode < 0 then
          .perform .unregisterChrdev .done
          .perform .classDestroy .done
          pure (errorCode, cards)
        else if errorCode = 0 then
          initFallback devices cards
        else
          pure (0, cards)

/-! ## The kernel around it -/

structure Attempt where
  enables : Bool
  card : Option CardRecord

/-- How the calls of initialisation go. A device is set up in the probe that
registration makes and in the fallback, each once. -/
structure Answers where
  classCreate : Option Int
  registerChrdev : Int
  pciRegisterDriver : Int
  probe : PciFunction → Attempt
  fallback : PciFunction → Attempt

abbrev Enabled := Nat → Nat

def deviceMachine (attempt : PciFunction → Attempt) :
    Machine DeviceCall DeviceCall.Response Enabled where
  execute enabled
    | .pciEnableDevice device =>
        if (attempt device).enables then
          (true, Function.update enabled device.pdev (enabled device.pdev + 1))
        else (false, enabled)
    | .pciDisableDevice device =>
        ((), Function.update enabled device.pdev (enabled device.pdev - 1))
    | .serialfcCardNew device =>
        -- The card is one of this device, whatever else it is.
        ((attempt device).card.map fun card =>
          { card with pdev := device.pdev }, enabled)
    | .serialfcCardDelete _ => ((), enabled)

/-- What the module has registered, and the devices that the PCI core has
bound to it. -/
structure Setup where
  hasClass : Bool
  hasChrdev : Bool
  hasDriver : Bool
  enabled : Enabled
  bound : List PciFunction

def Setup.none : Setup := ⟨false, false, false, fun _ => 0, []⟩

def probeAll (attempt : PciFunction → Attempt) :
    List PciFunction → List CardRecord → Setup → List CardRecord × Setup
  | [], cards, setup => (cards, setup)
  | device :: devices, cards, setup =>
      match (deviceMachine attempt).run (fcProbe device cards) setup.enabled with
      | (some (status, cards), enabled) =>
          probeAll attempt devices cards
            { setup with
              enabled
              bound := if status = 0 then setup.bound ++ [device]
                else setup.bound }
      | (none, enabled) => (cards, { setup with enabled })

def removeAll (attempt : PciFunction → Attempt) :
    List PciFunction → List CardRecord → Enabled → List CardRecord × Enabled
  | [], cards, enabled => (cards, enabled)
  | device :: devices, cards, enabled =>
      match (deviceMachine attempt).run (fcRemove device cards) enabled with
      | (some cards, enabled) => removeAll attempt devices cards enabled
      | (none, enabled) => (cards, enabled)

def probed (devices : List PciFunction) : List PciFunction :=
  devices.filter fun device => matchesIdTable device && !device.claimed

/-- The calls of `serialfc_init` with these devices present. A driver that
cannot be registered is not registered and probes nothing. -/
def initMachine (devices : List PciFunction) (answers : Answers) :
    Machine InitCall InitCall.Response Setup where
  execute setup
    | .device call =>
        let (response, enabled) :=
          (deviceMachine answers.fallback).execute setup.enabled call
        (response, { setup with enabled })
    | .classCreate =>
        (answers.classCreate,
          { setup with hasClass := answers.classCreate.isNone })
    | .classDestroy => ((), { setup with hasClass := false })
    | .registerChrdev =>
        (answers.registerChrdev,
          { setup with hasChrdev := decide (0 ≤ answers.registerChrdev) })
    | .unregisterChrdev => ((), { setup with hasChrdev := false })
    | .pciRegisterDriver cards =>
        if answers.pciRegisterDriver = 0 then
          let (cards, setup) := probeAll answers.probe (probed devices) cards
            { setup with hasDriver := true }
          ((0, cards), setup)
        else ((answers.pciRegisterDriver, cards), setup)
    | .pciUnregisterDriver cards =>
        let (cards, enabled) :=
          removeAll answers.fallback setup.bound cards setup.enabled
        (cards, { setup with hasDriver := false, enabled, bound := [] })

end SerialFc.Lifecycle
