import SerialFc.Driver.Operations
import SerialFc.Interface.Ranges

/-! # A card as its callers know it

The purpose of the driver: it keeps one number for each setting of each port,
and one divisor for each baud rate generator. Nothing here knows of registers.
-/

namespace SerialFc

/-! ## What is accepted -/

instance (type : CardType) (firmware : Nat) (value : BitVec 32)
    (setting : Setting) :
    Decidable (InOperatingRange type firmware value setting) := by
  cases setting <;> cases type <;> unfold InOperatingRange <;> infer_instance

theorem supported_of_inOperatingRange {type : CardType} {firmware : Nat}
    {value : BitVec 32} {setting : Setting}
    (inRange : InOperatingRange type firmware value setting) :
    setting.SupportedBy type firmware := by
  cases setting with
  | rs485 | echoCancel | termination => exact inRange
  | isochronous | externalTransmit => exact inRange.1
  | frameLength => exact ⟨inRange.1, inRange.2.1⟩
  | txTrigger | rxTrigger | sampleRate =>
      cases type with
      | unknown => cases inRange
      | _ => simp [Setting.SupportedBy]

namespace Setting

variable (type : CardType) (firmware : Nat) (value : BitVec 32)

/-- What is answered to an argument that is not taken: it is out of range, or
the family has no such setting. A frame length that is in range is refused for
the firmware's sake. -/
def refusal (setting : Setting) : Int :=
  if setting.SupportedBy type 0x20 ∧ ¬InOperatingRange type 0x20 value setting then
    -einval
  else
    -eprotonosupport

def status (setting : Setting) : Int :=
  if InOperatingRange type firmware value setting then 0
  else setting.refusal type value

theorem refusal_ne_zero (setting : Setting) : setting.refusal type value ≠ 0 := by
  unfold refusal
  split <;> decide

end Setting

/-! ## Settings of a card -/

structure CardSettings where
  /-- The firmware revision of a channel. It never changes. -/
  firmware : Nat → Nat
  value : Nat → Setting → BitVec 32
  /-- The divisor of a channel's baud rate, in sixteenths. -/
  divisor : Nat → Nat

namespace CardSettings

variable (type : CardType) (settings : CardSettings) (channel : Nat)

/-- What is reported of a setting, given what the answer is written over. -/
def get (before : BitVec 32) (setting : Setting) : Int × BitVec 32 :=
  if setting.SupportedBy type (settings.firmware channel) then
    (0, settings.value channel setting)
  else
    (-eprotonosupport, before)

/-- The settings after an accepted set. On the PCI family echo cancel belongs to
the whole board, and the driver enable of the fifth port, active low, is its
pin. -/
def set (argument : BitVec 32) (setting : Setting) : CardSettings :=
  { settings with
    value := fun other kind =>
      if kind = setting ∧
          (other = channel ∨ type = .pci ∧ kind = .echoCancel) then
        setting.denote argument
      else if type = .pci ∧ setting = .rs485 ∧ channel = 4 ∧
          kind = .echoCancel then
        if argument = 0 then 1 else 0
      else settings.value other kind }

/-- The status of a baud rate, and the settings after it. A rate of zero ends in
a division by zero; of the quotient twenty bits are kept. -/
def setBaudRate (value : Nat) : Option (Int × CardSettings) :=
  let sampleRate := (settings.value channel .sampleRate).toNat
  if value > 125000000 / sampleRate then
    some (-einval, settings)
  else if value = 0 then
    none
  else
    let quotient := 2000000000 / (value * sampleRate)
    some (0, { settings with
      divisor := Function.update settings.divisor channel (quotient % 0x100000) })

def getBaudRate : Option (BitVec 64) :=
  let sampleRate := (settings.value channel .sampleRate).toNat
  if settings.divisor channel = 0 then
    none
  else
    some (BitVec.ofNat 64 (2000000000 / settings.divisor channel / sampleRate))

/-- The reply to a call and the settings after it, or nothing if the call ends
in a division by zero. -/
def answer : Operation → Option (Reply × CardSettings)
  | .set setting value =>
      let status := setting.status type (settings.firmware channel) value
      some (.status status,
        if status = 0 then settings.set type channel value setting else settings)
  | .get setting before =>
      let (status, value) := settings.get type channel before setting
      some (.value status value, settings)
  | .setClockBits _ allocated =>
      let status := match type with
        | .pci => 0
        | .fscc => if allocated then 0 else 1
        | .pcie | .unknown => -eprotonosupport
      some (.status status, settings)
  | .enableAsyncMode | .disableAsyncMode =>
      some (.status (if type = .fscc then 0 else -eprotonosupport), settings)
  | .setBaudRate value =>
      if type = .pcie then
        (settings.setBaudRate channel value.toNat).map fun (status, next) =>
          (.status status, next)
      else
        some (.status (-eprotonosupport), settings)
  | .getBaudRate before =>
      if type = .pcie then
        (settings.getBaudRate channel).map fun value => (.rate 0 value, settings)
      else
        some (.rate (-eprotonosupport) before, settings)

end CardSettings

/-! ## Runs -/

/-- The settings of a card whose ports were just initialised. External transmit
and the divisor keep what they were. -/
def CardSettings.Fresh (card : Card) (settings : CardSettings) : Prop :=
  ∀ channel < card.numPorts, ∀ default ∈ defaultSettings,
    default.1.SupportedBy (fastcomGetCardType2 card) (settings.firmware channel) →
      settings.value channel default.1 = default.2

def CardSettings.Answers (card : Card) (settings : CardSettings) (event : Event)
    (next : CardSettings) : Prop :=
  event.channel < card.numPorts ∧
    settings.answer (fastcomGetCardType2 card) event.channel event.operation =
      some (event.reply, next)

end SerialFc
