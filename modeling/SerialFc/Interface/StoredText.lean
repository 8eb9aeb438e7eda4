import SerialFc.Exar.BaudRate
import SerialFc.Interface.Ranges
import SerialFc.Interface.Sysfs

/-! # Texts written to the attributes

A store handler returns the length of the text, whether or not the text is a
numeral and whatever the setter says. It does what its caller may expect for
the numerals in the range of its setter, and for no other text.
-/

namespace SerialFc

namespace Attribute

def base : Attribute → Nat
  | .baudRate => 10
  | .nineBit | .setting _ | .clockRate => 16

/-- The first number past the parameter of the setter: an `int`, an `unsigned`
or an `unsigned long`. -/
def parameterBound : Attribute → Nat
  | .nineBit | .setting .rs485 | .setting .echoCancel | .setting .termination
  | .setting .isochronous => 2 ^ 31
  | .setting .externalTransmit | .setting .frameLength | .setting .txTrigger
  | .setting .rxTrigger | .setting .sampleRate | .clockRate => 2 ^ 32
  | .baudRate => 2 ^ 64

def setter (port : Port) (value : Nat) : Attribute → Driver Int
  | .nineBit => fastcomSet9bit port (BitVec.ofNat 32 value)
  | .setting kind => kind.set port (BitVec.ofNat 32 value)
  | .clockRate => fastcomSetClockRate port (BitVec.ofNat 32 value)
  | .baudRate => fastcomSetBaudRate port (BitVec.ofNat 64 value)

/-- The text is a complete numeral, its number fits the parameter, and the
setter takes it and leaves `next`. -/
def Asks (attr : Attribute) (port : Port) (state : CardState) (text : Text)
    (value : Nat) (next : CardState) : Prop :=
  Denotes attr.base text value ∧ value < attr.parameterBound ∧
    port.card.machine.run (attr.setter port value) state = (some 0, next)

/-- What a text asks for is set and its length returned; a text that asks for
nothing is answered with an error, and nothing changes. -/
structure ObeysText (attr : Attribute) (port : Port) (state : CardState)
    (text : Text) : Prop where
  sets : ∀ value next, attr.Asks port state text value next →
    port.card.machine.run (attr.storeHandler port text) state =
      (some (text.length : Int), next)
  refuses : (¬∃ value next, attr.Asks port state text value next) →
    ∃ error < 0, port.card.machine.run (attr.storeHandler port text) state =
      (some error, state)

def InRange (port : Port) (state : CardState) (value : Nat) : Attribute → Prop
  | .setting kind =>
      InOperatingRange (fastcomGetCardType port)
        (state.firmwareRevision port.channel).toNat (BitVec.ofNat 32 value) kind
  | .baudRate =>
      fastcomGetCardType port = .pcie ∧ 0 < value ∧
        value ≤ 125000000 / (state.fields port.channel).sampleRate.toNat
  | .nineBit | .clockRate => False

section Handlers

variable {port : Port} {state : CardState} {attr : Attribute} {text : Text}
  {value : Nat}

theorem run_storeHandler (denotes : Denotes attr.base text value) {status : Int}
    {next : CardState}
    (run : port.card.machine.run (attr.setter port value) state =
      (some status, next)) :
    port.card.machine.run (attr.storeHandler port text) state =
      (some (text.length : Int), next) := by
  have read : simpleStrtoul text attr.base = BitVec.ofNat 64 value := by
    rw [simpleStrtoul, denotes.readNumeral]
  cases attr with
  | setting kind =>
      apply run_storeHandler_setting text
      rw [show simpleStrtoul text 16 = _ from read,
        BitVec.setWidth_ofNat_of_le (by decide)]
      exact run
  | nineBit | clockRate =>
      obtain rfl : state = next := (Prod.mk.inj run).2
      rfl
  | baudRate =>
      rw [storeHandler, baudRateStore, show simpleStrtoul text 10 = _ from read,
        Machine.run_bind]
      simp only [setter] at run
      rw [run]
      rfl

theorem result_of_run_pure_after {α : Type} {program : Driver α}
    {value result : Int} {next : CardState}
    (run : port.card.machine.run (program >>= fun _ => pure value) state =
      (some result, next)) :
    result = value := by
  rw [Machine.run_bind] at run
  split at run
  · exact (Option.some.inj (Prod.mk.inj run).1).symm
  · cases run

/-- A handler that returns returns the length of the text. -/
theorem length_of_run_storeHandler {count : Int} {next : CardState}
    (run : port.card.machine.run (attr.storeHandler port text) state =
      (some count, next)) :
    count = text.length := by
  cases attr with
  | nineBit | clockRate | baudRate => exact result_of_run_pure_after run
  | setting kind => cases kind <;> exact result_of_run_pure_after run

theorem not_accepts_of_status {setter : Driver Int} {status : Int}
    {after : CardState} (failed : status ≠ 0)
    (run : port.card.machine.run setter state = (some status, after)) :
    ¬∃ next, port.card.machine.run setter state = (some 0, next) := by
  intro accepted
  rcases accepted with ⟨next, accepted⟩
  have same := run.symm.trans accepted
  exact failed (Option.some.inj (Prod.mk.inj same).1)

/-- On PCIe ports the rates from one up to the limit are taken; zero does not
come to an answer. -/
theorem pcieSetBaudRate_accepts_iff (pcie : fastcomGetCardType port = .pcie)
    (fits : value < 2 ^ 64) :
    (∃ next, port.card.machine.run
        (pcieSetBaudRate port (BitVec.ofNat 64 value)) state = (some 0, next)) ↔
      0 < value ∧
        value ≤ 125000000 / (state.fields port.channel).sampleRate.toNat := by
  have machineEq := machine_of_cardType pcie
  have isValue : (BitVec.ofNat 64 value).toNat = value := by
    rw [BitVec.toNat_ofNat, Nat.mod_eq_of_lt fits]
  by_cases zero : BitVec.ofNat 64 value = 0 ∨
      (state.fields port.channel).sampleRate = 0
  · have faults := run_pcieSetBaudRate_faults port state _ zero
    apply iff_of_false
    · intro accepted
      rcases accepted with ⟨next, accepted⟩
      rw [machineEq] at accepted
      rw [accepted] at faults
      cases faults
    · intro inRange
      rcases zero with valueZero | rateZero
      · rw [valueZero] at isValue
        exact absurd isValue inRange.1.ne
      · rw [rateZero] at inRange
        exact absurd inRange.1 (Nat.not_lt.mpr inRange.2)
  · rw [not_or] at zero
    have run := run_pcieSetBaudRate port state zero.1 zero.2
    rw [← machineEq] at run
    have positive : 0 < value := by
      apply Nat.pos_of_ne_zero
      rintro rfl
      exact zero.1 rfl
    rw [and_iff_right positive, ← toNat_baudLimit, ← isValue, ← BitVec.le_def,
      isValue, ← BitVec.not_lt]
    split at run
    case isTrue outside =>
      exact iff_of_false (not_accepts_of_status (by decide) run)
        (not_not.mpr outside)
    case isFalse inside => exact iff_of_true ⟨_, run⟩ inside

theorem setBaudRate_accepts_iff (fits : value < 2 ^ 64) :
    (∃ next, port.card.machine.run (baudRate.setter port value) state =
      (some 0, next)) ↔ baudRate.InRange port state value := by
  by_cases pcie : fastcomGetCardType port = .pcie
  · simp only [setter, fastcomSetBaudRate, InRange, pcie, true_and]
    exact pcieSetBaudRate_accepts_iff pcie fits
  · have refused : baudRate.setter port value = pure (-eprotonosupport) := by
      simp only [setter, fastcomSetBaudRate]
    apply iff_of_false _ fun inRange => pcie inRange.1
    rw [refused]
    exact not_accepts_of_status (by decide) rfl

theorem setter_accepts_iff (known : fastcomGetCardType port ≠ .unknown)
    (fits : value < attr.parameterBound) :
    (∃ next, port.card.machine.run (attr.setter port value) state =
      (some 0, next)) ↔ attr.InRange port state value := by
  cases attr with
  | setting kind =>
      rcases set_succeeds_or_refuses known kind (BitVec.ofNat 32 value) state with
        ⟨inRange, next, run⟩ | ⟨outside, status, failed, run, _⟩
      · exact iff_of_true ⟨next, run⟩ inRange
      · exact iff_of_false (not_accepts_of_status failed run) outside
  | nineBit | clockRate =>
      exact iff_of_false (not_accepts_of_status (by decide) rfl) id
  | baudRate => exact setBaudRate_accepts_iff fits

/-- A handler cannot refuse, so it does what it should for the texts that ask
for something. -/
theorem obeysText_iff_asks :
    attr.ObeysText port state text ↔
      ∃ value next, attr.Asks port state text value next := by
  constructor
  · intro obeys
    by_contra nothing
    rcases obeys.refuses nothing with ⟨error, negative, run⟩
    have isLength := length_of_run_storeHandler run
    omega
  · intro asks
    constructor
    · intro value next asked
      exact run_storeHandler asked.1 asked.2.2
    · intro nothing
      exact absurd asks nothing

end Handlers

/-- A text is obeyed exactly if it is a complete numeral whose number fits the
parameter of the setter and is in its range. -/
theorem obeysText_iff {port : Port} (known : fastcomGetCardType port ≠ .unknown)
    (attr : Attribute) (state : CardState) (text : Text) :
    attr.ObeysText port state text ↔
      ∃ value, Denotes attr.base text value ∧ value < attr.parameterBound ∧
        attr.InRange port state value := by
  rw [obeysText_iff_asks]
  constructor
  · intro asks
    rcases asks with ⟨value, next, denotes, fits, run⟩
    exact ⟨value, denotes, fits, (setter_accepts_iff known fits).mp ⟨next, run⟩⟩
  · intro inRange
    rcases inRange with ⟨value, denotes, fits, inRange⟩
    rcases (setter_accepts_iff known fits).mpr inRange with ⟨next, run⟩
    exact ⟨value, next, denotes, fits, run⟩

/-- A trigger level in hexadecimal. -/
theorem obeysText_0x20 :
    (Attribute.setting .txTrigger).ObeysText ⟨Card.ofDevice fc422_4PcieId 4, 3⟩
      .blank "0x20\n".toList := by
  apply (obeysText_iff (by decide) _ _ _).mpr
  have denotes : Denotes 16 "0x20\n".toList 32 :=
    ⟨[2, 0], by decide, by decide, by decide, by decide⟩
  refine ⟨32, denotes, by decide, ?_⟩
  change (BitVec.ofNat 32 32).toNat ≤ 255
  decide

/-- `-1` is read as 0, which sets isochronous mode 0. -/
theorem not_obeysText_minus :
    ¬(Attribute.setting .isochronous).ObeysText ⟨Card.ofDevice fsccId 2, 0⟩
      .blank "-1\n".toList := by
  intro obeys
  rcases obeysText_iff_asks.mp obeys with ⟨value, next, denotes, _⟩
  rcases denotes with ⟨digits, _, _, areDigits, _⟩
  have isMinus : (skipPrefix 16 (lineOf "-1\n".toList)).map digitValue =
      [none, some 1] := by
    decide
  replace areDigits := isMinus.symm.trans areDigits
  cases digits with
  | nil => cases areDigits
  | cons digit digits => cases (List.cons.inj areDigits).1

end Attribute

end SerialFc
