import SerialFc.Foundation.Faults
import SerialFc.Lifecycle.CardBalance
import SerialFc.Lifecycle.Discovery

/-! # From loading to unloading

`serialfc_init`, the callbacks that the PCI core makes while the module is
loaded, and `serialfc_exit`, on the ledger of what is held.
-/

namespace SerialFc.Lifecycle

open Kernel

/-! ## Unloading -/

def exitCards : List CardRecord → Initialisation (List CardRecord)
  | [] => pure []
  | card :: cards => do
      .perform (.device (.serialfcCardDelete card)) .done
      exitCards cards

def serialfcExit (cards : List CardRecord) :
    Initialisation (List CardRecord) := do
  let cards ← exitCards cards
  let cards ← .perform (.pciUnregisterDriver cards) .done
  .perform .unregisterChrdev .done
  .perform .classDestroy .done
  pure cards

/-! ## The kernel around it -/

/-- What the module and the kernel keep. `minorNumber` is the static variable
of `serialfc_card_new`, `hasChrdev` the region of `register_chrdev` with the
`cdev` that the kernel adds for it, `bound` the devices that the PCI core has
bound. -/
structure Loaded where
  ledger : CardLedger
  minorNumber : Nat
  hasClass : Bool
  hasChrdev : Bool
  hasDriver : Bool
  bound : List PciFunction

def Loaded.fresh (ledger : CardLedger) : Loaded :=
  ⟨ledger, 0, false, false, false, []⟩

def Loaded.perform {α : Type} (loaded : Loaded) (fails : DriverResource → Bool)
    (program : Kernel α) : Option (α × Loaded) :=
  match (kernelMachine fails).run program loaded.ledger with
  | (some value, ledger) => some (value, { loaded with ledger })
  | (none, _) => none

def deviceCall (fails : DriverResource → Bool) :
    (call : DeviceCall) → Loaded → Option (call.Response × Loaded)
  | .pciEnableDevice device, loaded =>
      loaded.perform fails (acquire (.enable device.pdev))
  | .pciDisableDevice device, loaded =>
      loaded.perform fails (release (.enable device.pdev))
  | .serialfcCardNew device, loaded =>
      match loaded.perform fails (serialfcCardNew device loaded.minorNumber) with
      | some ((card, next), loaded) =>
          some (card, { loaded with minorNumber := next })
      | none => none
  | .serialfcCardDelete card, loaded =>
      loaded.perform fails (serialfcCardDelete card)

inductive HotplugEvent
  | probe (device : PciFunction) (fails : DriverResource → Bool)
  | remove (device : PciFunction)

/-- A device is bound whose probe returns 0, until it is removed. -/
def HotplugEvent.carryOut (cards : List CardRecord) (loaded : Loaded) :
    HotplugEvent → Option (List CardRecord × Loaded)
  | .probe device fails =>
      match (fcProbe device cards).runWith (deviceCall fails) loaded with
      | some ((status, cards), loaded) =>
          some (cards, { loaded with
            bound := if status = 0 then loaded.bound ++ [device]
              else loaded.bound })
      | none => none
  | .remove device =>
      match (fcRemove device cards).runWith (deviceCall fun _ => false) loaded with
      | some (cards, loaded) =>
          some (cards, { loaded with
            bound := loaded.bound.filter fun other => other.pdev ≠ device.pdev })
      | none => none

def carryOutAll :
    List HotplugEvent → List CardRecord → Loaded → Option (List CardRecord × Loaded)
  | [], cards, loaded => some (cards, loaded)
  | event :: events, cards, loaded =>
      match event.carryOut cards loaded with
      | some (cards, loaded) => carryOutAll events cards loaded
      | none => none

/-- How loading goes. Each device is set up once in the probes that
registration makes and once in the fallback. -/
structure LoadAnswers where
  classCreate : Option Int
  registerChrdev : Int
  pciRegisterDriver : Int
  probeFails : DriverResource → Bool
  fallbackFails : DriverResource → Bool

def moduleCall (devices : List PciFunction) (answers : LoadAnswers) :
    (call : InitCall) → Loaded → Option (call.Response × Loaded)
  | .device call, loaded => deviceCall answers.fallbackFails call loaded
  | .classCreate, loaded =>
      some (answers.classCreate,
        { loaded with hasClass := answers.classCreate.isNone })
  | .classDestroy, loaded => some ((), { loaded with hasClass := false })
  | .registerChrdev, loaded =>
      some (answers.registerChrdev,
        { loaded with hasChrdev := decide (0 ≤ answers.registerChrdev) })
  | .unregisterChrdev, loaded => some ((), { loaded with hasChrdev := false })
  | .pciRegisterDriver cards, loaded =>
      if answers.pciRegisterDriver = 0 then
        match carryOutAll ((probed devices).map fun device =>
            .probe device answers.probeFails) cards
            { loaded with hasDriver := true } with
        | some (cards, loaded) => some ((0, cards), loaded)
        | none => none
      else some ((answers.pciRegisterDriver, cards), loaded)
  | .pciUnregisterDriver cards, loaded =>
      match carryOutAll (loaded.bound.map .remove) cards loaded with
      | some (cards, loaded) =>
          some (cards, { loaded with hasDriver := false, bound := [] })
      | none => none

/-! ## Set-ups -/

/-- An attempt to set up a device, by a probe or by the fallback, and the
acquisitions that fail in it. -/
structure SetUp where
  device : PciFunction
  fails : DriverResource → Bool

namespace SetUp

def ports (setUp : SetUp) (minorNumber : Nat) : Nat :=
  if setUp.fails (.enable setUp.device.pdev) then 0
  else cardPorts setUp.fails setUp.device minorNumber

/-- What it takes that the card it makes, if any, does not give back. -/
def spills (setUp : SetUp) (minorNumber : Nat) : CardLedger :=
  if setUp.fails (.enable setUp.device.pdev) then 0
  else
    (if ReachesLoop setUp.fails setUp.device then 0
      else Ledger.one (.enable setUp.device.pdev)) +
    cardSpills setUp.fails setUp.device minorNumber

end SetUp

def portsUsed : List SetUp → Nat → Nat
  | [], _ => 0
  | setUp :: later, minorNumber =>
      setUp.ports minorNumber + portsUsed later (minorNumber + setUp.ports minorNumber)

def spilled : List SetUp → Nat → CardLedger
  | [], _ => 0
  | setUp :: later, minorNumber =>
      setUp.spills minorNumber + spilled later (minorNumber + setUp.ports minorNumber)

def LoadAnswers.Registers (answers : LoadAnswers) : Prop :=
  answers.classCreate = none ∧ 0 ≤ answers.registerChrdev ∧
    answers.pciRegisterDriver = 0

instance (answers : LoadAnswers) : Decidable answers.Registers :=
  inferInstanceAs (Decidable (_ ∧ _))

def loadSetUps (devices : List PciFunction) (answers : LoadAnswers) : List SetUp :=
  if answers.Registers then
    ((probed devices).map fun device => ⟨device, answers.probeFails⟩) ++
      (fallbackDevices devices).map fun device => ⟨device, answers.fallbackFails⟩
  else []

def HotplugEvent.setUp : HotplugEvent → Option SetUp
  | .probe device fails => some ⟨device, fails⟩
  | .remove _ => none

def hotplugSetUps (events : List HotplugEvent) : List SetUp :=
  events.filterMap HotplugEvent.setUp

end SerialFc.Lifecycle
