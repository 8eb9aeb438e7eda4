import SerialFc.Driver.Settings

/-! # Baud rate of the PCIe family

The divisor counts sixteenths: DLM and DLL hold its upper bits and the low
nibble of DLD the fraction. `unsigned` is 32 bits and `unsigned long` 64.
-/

namespace SerialFc

/-- Unsigned division; the processor traps on a zero divisor. -/
def divide {width : Nat} (dividend divisor : BitVec width) :
    Driver (BitVec width) :=
  if divisor = 0 then .trap else pure (dividend / divisor)

def baudInputFreq : BitVec 32 := 125000000

def pcieSetBaudRate (port : Port) (value : BitVec 64) : Driver Int := do
  let prescaler : BitVec 32 := 1
  let limit ← divide baudInputFreq (← load port .sampleRate)
  if value > limit.setWidth 64 then
    pure (-einval)
  else
    let origLcr ← ioread8 port lcrOffset
    iowrite8 port lcrOffset (origLcr ||| 0x80)
    let scaled ← divide (baudInputFreq * 16) prescaler
    let sampleRate ← load port .sampleRate
    let quotient ← divide (scaled.setWidth 64) (value * sampleRate.setWidth 64)
    let divisor : BitVec 32 := quotient.setWidth 32
    let dlm : BitVec 8 := (divisor >>> 12).setWidth 8
    let dll : BitVec 8 := ((divisor >>> 4) &&& 0xff).setWidth 8
    let dld ← ioread8 port dldOffset
    let dld := dld &&& 0xf0
    let dld := dld ||| (divisor &&& 0xf).setWidth 8
    iowrite8 port dlmOffset dlm
    iowrite8 port dllOffset dll
    iowrite8 port dldOffset dld
    iowrite8 port lcrOffset origLcr
    pure 0

def pcieGetBaudRate (port : Port) : Driver (Int × BitVec 64) := do
  let prescaler : BitVec 64 := 1
  let origLcr ← ioread8 port lcrOffset
  iowrite8 port lcrOffset (origLcr ||| 0x80)
  let dlm ← ioread8 port dlmOffset
  let dll ← ioread8 port dllOffset
  let dld ← ioread8 port dldOffset
  let divisor16ths : BitVec 32 :=
    (dlm.setWidth 32 <<< 12) + (dll.setWidth 32 <<< 4) +
      (dld &&& 0xf).setWidth 32
  let inputFreq : BitVec 64 := baudInputFreq.setWidth 64 <<< 4
  let scaled ← divide inputFreq prescaler
  let perDivisor ← divide scaled (divisor16ths.setWidth 64)
  let value ← divide perDivisor ((← load port .sampleRate).setWidth 64)
  iowrite8 port lcrOffset origLcr
  pure (0, value)

def fastcomSetBaudRate (port : Port) (value : BitVec 64) : Driver Int :=
  match fastcomGetCardType port with
  | .pcie => pcieSetBaudRate port value
  | _ => pure (-eprotonosupport)

def fastcomGetBaudRate (port : Port) (value : BitVec 64) :
    Driver (Int × BitVec 64) :=
  match fastcomGetCardType port with
  | .pcie => pcieGetBaudRate port
  | _ => pure (-eprotonosupport, value)

/-! ## What the functions access -/

theorem divide_performs {allowed : Access → Prop} {width : Nat}
    (dividend divisor : BitVec width) :
    (divide dividend divisor).Performs allowed := by
  simp [divide]

theorem pcieSetBaudRate_performs (port : Port) {allowed : Access → Prop}
    (load : allowed (.load port.channel .sampleRate))
    (read : ∀ offset ≤ lcrOffset, allowed (.ioread8 port.channel offset))
    (write : ∀ offset ≤ lcrOffset, ∀ value,
      allowed (.iowrite8 port.channel offset value))
    (value : BitVec 64) : (pcieSetBaudRate port value).Performs allowed := by
  refine ⟨load, fun sampleRate => ?_⟩
  apply Program.performs_bind (divide_performs _ _)
  intro limit
  simp only [Program.performs_ite, Program.performs_pure]
  refine ⟨fun _ => trivial, fun _ => ?_⟩
  refine ⟨read _ (Nat.le_refl _), fun origLcr =>
    ⟨write _ (Nat.le_refl _) _, fun _ => ?_⟩⟩
  apply Program.performs_bind (divide_performs _ _)
  intro scaled
  refine ⟨load, fun sampleRate => ?_⟩
  apply Program.performs_bind (divide_performs _ _)
  intro quotient
  refine ⟨read _ (by decide), fun dld => ⟨write _ (by decide) _, fun _ => ?_⟩⟩
  refine ⟨write _ (by decide) _, fun _ => ⟨write _ (by decide) _, fun _ => ?_⟩⟩
  exact ⟨write _ (Nat.le_refl _) _, fun _ => trivial⟩

theorem pcieGetBaudRate_performs (port : Port) {allowed : Access → Prop}
    (load : allowed (.load port.channel .sampleRate))
    (read : ∀ offset ≤ lcrOffset, allowed (.ioread8 port.channel offset))
    (write : ∀ offset ≤ lcrOffset, ∀ value,
      allowed (.iowrite8 port.channel offset value)) :
    (pcieGetBaudRate port).Performs allowed := by
  refine ⟨read _ (Nat.le_refl _), fun origLcr =>
    ⟨write _ (Nat.le_refl _) _, fun _ => ?_⟩⟩
  refine ⟨read _ (by decide), fun dlm => ⟨read _ (by decide), fun dll => ?_⟩⟩
  refine ⟨read _ (by decide), fun dld => ?_⟩
  apply Program.performs_bind (divide_performs _ _)
  intro scaled
  apply Program.performs_bind (divide_performs _ _)
  intro perDivisor
  refine ⟨load, fun sampleRate => ?_⟩
  apply Program.performs_bind (divide_performs _ _)
  intro value
  exact ⟨write _ (Nat.le_refl _) _, fun _ => trivial⟩

end SerialFc
