import Mathlib.Data.List.Basic

/-! # Cards, ports and register offsets

The fixed data of a card and the constants of `serialfc.h` and `config.h`.
-/

namespace SerialFc

/-! ## PCI devices -/

def fc422_2Pci335Id : BitVec 16 := 0x0004
def fc422_4Pci335Id : BitVec 16 := 0x0002
def fc232_4Pci335Id : BitVec 16 := 0x000a
def fc232_8Pci335Id : BitVec 16 := 0x000b
def fc422_4PcieId : BitVec 16 := 0x0020
def fc422_8PcieId : BitVec 16 := 0x0021
def fsccId : BitVec 16 := 0x000f

def fsccBoardIds : List (BitVec 16) :=
  [fsccId, 0x0014, 0x0015, 0x0016, 0x0017, 0x0018, 0x0019, 0x001a, 0x001b,
    0x001c, 0x001d, 0x001e, 0x0023, 0x0025, 0x0022, 0x0026, 0x0027]

/-- The part of `struct pci_dev` that the driver reads. -/
structure PciDev where
  vendor : BitVec 16
  device : BitVec 16
  bus : BitVec 8
  /-- `none` when `pdev->slot` is null. -/
  slot : Option (BitVec 8)

inductive CardType
  | pci
  | pcie
  | fscc
  | unknown
  deriving DecidableEq, Repr

structure Card where
  pciDev : PciDev
  numPorts : Nat

def commtechVendorId : BitVec 16 := 0x18f7

def Card.ofDevice (device : BitVec 16) (numPorts : Nat) : Card :=
  ⟨⟨commtechVendorId, device, 0, none⟩, numPorts⟩

/-- `num_ports` of the board that `serialfc_card_new` selects. -/
def boardNumPorts (device : BitVec 16) : Option Nat :=
  if device = fc422_2Pci335Id then some 2
  else if device = fc422_4Pci335Id ∨ device = fc232_4Pci335Id then some 4
  else if device = fc232_8Pci335Id then some 8
  else if device = fc422_4PcieId then some 4
  else if device = fc422_8PcieId then some 8
  else if device ∈ fsccBoardIds then some 2
  else none

def fastcomGetCardType2 (card : Card) : CardType :=
  let device := card.pciDev.device
  if device = fc422_2Pci335Id ∨ device = fc422_4Pci335Id ∨
      device = fc232_4Pci335Id ∨ device = fc232_8Pci335Id then
    .pci
  else if device = fc422_4PcieId ∨ device = fc422_8PcieId then
    .pcie
  else if device = 0x0f ∨ (device ≥ 0x14 ∧ device ≤ 0x1f) ∨
      (device ≥ 0x22 ∧ device ≤ 0x27) then
    .fscc
  else
    .unknown

/-- One port of a card; its shadow fields live in the card state. -/
structure Port where
  card : Card
  channel : Nat

def fastcomGetCardType (port : Port) : CardType :=
  fastcomGetCardType2 port.card

def CardType.toValue : CardType → BitVec 32
  | .pci => 0
  | .pcie => 1
  | .fscc => 2
  | .unknown => 3

theorem boardNumPorts_range (card : Card)
    (board : boardNumPorts card.pciDev.device = some card.numPorts) :
    (fastcomGetCardType2 card = .pci →
        card.numPorts = 2 ∨ card.numPorts = 4 ∨ card.numPorts = 8) ∧
      (fastcomGetCardType2 card = .pcie → card.numPorts ≤ 8) ∧
      (fastcomGetCardType2 card = .fscc → card.numPorts = 2) := by
  unfold fastcomGetCardType2
  unfold boardNumPorts at board
  generalize card.pciDev.device = device at board ⊢
  generalize card.numPorts = numPorts at board ⊢
  split_ifs at board with two four eight pcieFour pcieEight fscc <;>
    injection board <;> subst numPorts
  case pos => simp [two]
  case pos => rcases four with equal | equal <;> simp [equal]
  case pos => simp [eight]
  case pos => simp [pcieFour, fc422_2Pci335Id, fc422_4Pci335Id,
    fc232_4Pci335Id, fc232_8Pci335Id, fc422_4PcieId]
  case pos => simp [pcieEight, fc422_2Pci335Id, fc422_4Pci335Id,
    fc232_4Pci335Id, fc232_8Pci335Id, fc422_8PcieId]
  case pos => simp

theorem fastcomGetCardType2_known {card : Card}
    (board : boardNumPorts card.pciDev.device = some card.numPorts) :
    fastcomGetCardType2 card ≠ .unknown := by
  unfold fastcomGetCardType2
  unfold boardNumPorts at board
  generalize card.pciDev.device = device at board ⊢
  split_ifs at board with two four eight pcieFour pcieEight fscc
  case pos => simp [two]
  case pos => rcases four with equal | equal <;> simp [equal]
  case pos => simp [eight]
  case pos => simp [pcieFour, fc422_2Pci335Id, fc422_4Pci335Id,
    fc232_4Pci335Id, fc232_8Pci335Id, fc422_4PcieId]
  case pos => simp [pcieEight, fc422_2Pci335Id, fc422_4Pci335Id,
    fc232_4Pci335Id, fc232_8Pci335Id, fc422_8PcieId]
  case pos =>
    simp only [fsccBoardIds, List.mem_cons, List.not_mem_nil, or_false] at fscc
    rcases fscc with rfl | rfl | rfl | rfl | rfl | rfl | rfl | rfl | rfl | rfl |
      rfl | rfl | rfl | rfl | rfl | rfl | rfl <;> decide

/-! ## Error numbers -/

def einval : Int := 22
def eprotonosupport : Int := 93
def enotty : Int := 25
def enodata : Int := 61

/-! ## Register offsets -/

def dllOffset : Nat := 0x0
def dlmOffset : Nat := 0x1
def dldOffset : Nat := 0x2

def mpiolvlOffset : Nat := 0x90
def mpioinvOffset : Nat := 0x92
def mpioselOffset : Nat := 0x93
def mpiolvlhOffset : Nat := 0x96
def mpioselhOffset : Nat := 0x99

def uartExar8xmode : Nat := 0x88
def uartExar4xmode : Nat := 0x89
def uartExarTxtrg : Nat := 0x0a
def uartExarRxtrg : Nat := 0x0b
def uartExarFctr : Nat := 0x08

def fcrOffset : Nat := 0x2
def lcrOffset : Nat := 0x3
def mcrOffset : Nat := 0x4
def sprOffset : Nat := 0x7
def efrOffset : Nat := 0x2
def icrOffset : Nat := 0x5

/-! Positions in the indexed control register set, selected through SPR. -/

def acrOffset : BitVec 8 := 0x00
def tcrOffset : BitVec 8 := 0x02
def cksOffset : BitVec 8 := 0x03
def ttlOffset : BitVec 8 := 0x04
def rtlOffset : BitVec 8 := 0x05
def mdmOffset : BitVec 8 := 0x0e
def extOffset : BitVec 8 := 0x16
def exthOffset : BitVec 8 := 0x17
def flrOffset : BitVec 8 := 0x20

def vstrOffset : Nat := 0x4c

/-! ## Defaults -/

def defaultRs485 : BitVec 32 := 0
def defaultSampleRate : BitVec 32 := 16
def defaultTxTriggerLevel : BitVec 32 := 32
def defaultRxTriggerLevel : BitVec 32 := 32
def defaultTermination : BitVec 32 := 1
def defaultEchoCancel : BitVec 32 := 0
def defaultIsochronous : BitVec 32 := -1
def defaultFrameLength : BitVec 32 := 1

/-- `PCI_29MHZ_BITS`, the clock word a PCI card is initialised with. -/
def pci29MhzBits : BitVec 32 := 0x100801

end SerialFc
