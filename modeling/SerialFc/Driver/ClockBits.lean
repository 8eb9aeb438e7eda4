import SerialFc.Driver.Settings

/-! # Programming the clock generator

Both families shift a word out on three pins of a shared register: FSCC cards
through FCR, with the values staged in an array first, PCI cards through
MPIOLVL, one access at a time.
-/

namespace SerialFc

/-! ## FSCC -/

def strbBase : BitVec 32 := 0x00000008
def dtaBase : BitVec 32 := 0x00000001
def clkBase : BitVec 32 := 0x00000002

/-- The bits of FCR that the clock generators of both channels do not use. -/
def fcrKeepMask : BitVec 32 := 0xfffff0f0

/-- The staging array filled so far and the running image of FCR. The array
is a list here; how long it gets is a question about `data` itself. -/
structure FcrStaging where
  data : List (BitVec 32)
  newFcrValue : BitVec 32

def FcrStaging.shiftBit (origFcrValue dtaValue clkValue : BitVec 32)
    (bit : Bool) (staging : FcrStaging) : FcrStaging :=
  let data := staging.data ++ [staging.newFcrValue]
  let newFcrValue :=
    if bit then staging.newFcrValue ||| dtaValue
    else staging.newFcrValue &&& ~~~dtaValue
  let newFcrValue := newFcrValue ||| clkValue
  let data := data ++ [newFcrValue]
  let newFcrValue := newFcrValue &&& ~~~clkValue
  let data := data ++ [newFcrValue]
  { data, newFcrValue := origFcrValue &&& fcrKeepMask }

/-- The inner loop, `j` from 7 down to 0. -/
def FcrStaging.shiftByte (origFcrValue dtaValue clkValue : BitVec 32)
    (byte : BitVec 8) (staging : FcrStaging) : FcrStaging :=
  (List.range 8).reverse.foldl
    (fun staging j =>
      staging.shiftBit origFcrValue dtaValue clkValue (byte.getLsbD j))
    staging

/-- The pins of channel 1 are those of channel 0 shifted by a byte. -/
def clockPin (base : BitVec 32) (channel : Nat) : BitVec 32 :=
  if channel = 1 then base <<< 8 else base

/-- The array handed to `iowrite32_rep`: the outer loop runs `i` from 19 down
to 0, and the strobe and the original value close the stream. -/
def fcrClockData (channel : Nat) (clockData : Fin 20 → BitVec 8)
    (origFcrValue : BitVec 32) : List (BitVec 32) :=
  let strbValue := clockPin strbBase channel
  let dtaValue := clockPin dtaBase channel
  let clkValue := clockPin clkBase channel
  let newFcrValue := origFcrValue &&& fcrKeepMask
  let staging := (List.finRange 20).reverse.foldl
    (fun (staging : FcrStaging) i =>
      staging.shiftByte origFcrValue dtaValue clkValue (clockData i))
    { data := [newFcrValue], newFcrValue }
  let newFcrValue := origFcrValue &&& fcrKeepMask
  let newFcrValue := newFcrValue ||| strbValue
  let newFcrValue := newFcrValue &&& ~~~clkValue
  staging.data ++ [newFcrValue] ++ [origFcrValue]

/-- Green FSCC cards up to revision 6 and 232 cards run without XTAL. -/
def xtalDisabled (port : Port) : Driver Bool := do
  let pdev ← fsccGetPdev port
  let oldGreenCard ←
    if pdev = 0x0f then do
      let prev ← fsccGetPrev port
      pure (decide (prev ≤ 6))
    else pure false
  if oldGreenCard then pure true
  else do
    let pdev ← fsccGetPdev port
    pure (decide (pdev = 0x16))

/-- Bit 2 of byte 15 enables XTAL. -/
def forceXtal (disabled : Bool) (clockData : Fin 20 → BitVec 8) :
    Fin 20 → BitVec 8 :=
  Function.update clockData 15
    (if disabled then clockData 15 &&& 0xfb else clockData 15 ||| 0x04)

/-- `allocated` says whether `kmalloc` returned memory. -/
def fastcomSetClockBitsFscc (port : Port) (clockData : Fin 20 → BitVec 8)
    (allocated : Bool) : Driver Int := do
  let disabled ← xtalDisabled port
  let clockData := forceXtal disabled clockData
  if allocated then do
    let origFcrValue ← ioread32 .bar2 0
    iowrite32Rep .bar2 0 (fcrClockData port.channel clockData origFcrValue)
    pure 0
  else pure 1

/-! ## PCI -/

def mpioSdta : BitVec 8 := 0x01
def mpioSclk : BitVec 8 := 0x02
def mpioSstb : BitVec 8 := 0x04

/-- The loop over the remaining bits, most significant first. Returns the last
image of MPIOLVL. -/
def shiftClockBitsPci (port : Port) :
    Nat → BitVec 64 → BitVec 8 → Driver (BitVec 8)
  | 0, _, data => pure data
  | remaining + 1, tempValue, data => do
      let data :=
        if tempValue &&& 0x800000 ≠ 0 then data ||| mpioSdta
        else data &&& ~~~mpioSdta
      iowrite8 port mpiolvlOffset data
      let data := data ||| mpioSclk
      iowrite8 port mpiolvlOffset data
      let data := data &&& mpioSdta
      iowrite8 port mpiolvlOffset data
      shiftClockBitsPci port remaining (tempValue <<< 1) data

def fastcomSetClockBitsPci (port : Port) (clockData : BitVec 32) :
    Driver Int := do
  let tempValue := (clockData &&& 0x00ffffff).setWidth 64
  let saved ← ioread8 port mpiolvlOffset
  let data ← shiftClockBitsPci port 24 tempValue saved
  let data := data &&& 0xf8
  let data := data ||| mpioSstb
  iowrite8 port mpiolvlOffset data
  let data := data &&& ~~~mpioSstb
  iowrite8 port mpiolvlOffset data
  iowrite8 port mpiolvlOffset saved
  pure 0

theorem shiftClockBitsPci_performs (port : Port) {allowed : Access → Prop}
    (write : ∀ value, allowed (.iowrite8 port.channel mpiolvlOffset value))
    (remaining : Nat) (tempValue : BitVec 64) (data : BitVec 8) :
    (shiftClockBitsPci port remaining tempValue data).Performs allowed := by
  induction remaining generalizing tempValue data with
  | zero => trivial
  | succ remaining induction =>
      refine ⟨write _, fun _ => ⟨write _, fun _ => ⟨write _, fun _ => ?_⟩⟩⟩
      exact induction _ _

theorem setClockBitsPci_performs (port : Port) {allowed : Access → Prop}
    (read : allowed (.ioread8 port.channel mpiolvlOffset))
    (write : ∀ value, allowed (.iowrite8 port.channel mpiolvlOffset value))
    (clockData : BitVec 32) :
    (fastcomSetClockBitsPci port clockData).Performs allowed := by
  refine ⟨read, fun saved => ?_⟩
  apply Program.performs_bind (shiftClockBitsPci_performs port write _ _ _)
  intro data
  exact ⟨write _, fun _ => ⟨write _, fun _ => ⟨write _, fun _ => trivial⟩⟩⟩

/-! ## Dispatch -/

/-- The low 32 bits of `*(unsigned long *)clock_data`, little endian. -/
def clockWordPci (clockData : Fin 20 → BitVec 8) : BitVec 32 :=
  clockData 3 ++ clockData 2 ++ clockData 1 ++ clockData 0

def fastcomSetClockBits (port : Port) (clockData : Fin 20 → BitVec 8)
    (allocated : Bool) : Driver Int :=
  match fastcomGetCardType port with
  | .fscc => fastcomSetClockBitsFscc port clockData allocated
  | .pci => fastcomSetClockBitsPci port (clockWordPci clockData)
  | _ => pure (-eprotonosupport)

end SerialFc
