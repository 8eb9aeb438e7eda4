import SerialFc.Driver.BaudRate
import SerialFc.Driver.Operations
import SerialFc.Foundation.Numerals

/-! # The sysfs attributes

Every attribute of the settings group has handlers of its own. A show handler
prints what a getter reports, a store handler hands what it reads to a setter;
both drop the status. The numbers are printed in decimal, and all but the baud
rate are read in hexadecimal.
-/

namespace SerialFc

abbrev Text := List Char

/-- What does not fit an `unsigned long` is cut off. -/
def simpleStrtoul (text : Text) (base : Nat) : BitVec 64 :=
  BitVec.ofNat 64 (readNumeral base text)

/-! ## Handlers -/

/-- The number is an `unsigned` that starts at zero and is printed with
`%i`. -/
def showUnsigned (getter : Port → BitVec 32 → Driver (Int × BitVec 32))
    (port : Port) : Driver Text := do
  let (_, value) ← getter port 0
  pure (printInt value.toInt ++ ['\n'])

/-- Returns the length of the text, whatever the setter returned. -/
def storeUnsigned {α : Type} (setter : Port → BitVec 32 → Driver α)
    (port : Port) (text : Text) : Driver Int := do
  let _ ← setter port ((simpleStrtoul text 16).setWidth 32)
  pure text.length

def nineBitStore := storeUnsigned fastcomSet9bit
def nineBitShow := showUnsigned fastcomGet9bit

def echoCancelStore := storeUnsigned fastcomSetEchoCancel
def echoCancelShow := showUnsigned fun port enabled => do
  pure (0, ← fastcomGetEchoCancel port enabled)

def externalTransmitStore := storeUnsigned fastcomSetExternalTransmit
def externalTransmitShow := showUnsigned fastcomGetExternalTransmit

def frameLengthStore := storeUnsigned fastcomSetFrameLength
def frameLengthShow := showUnsigned fastcomGetFrameLength

def isochronousStore := storeUnsigned fastcomSetIsochronous
def isochronousShow := showUnsigned fastcomGetIsochronous

def rs485Store := storeUnsigned fastcomSetRs485
def rs485Show := showUnsigned fastcomGetRs485

def rxTriggerStore := storeUnsigned fastcomSetRxTrigger
def rxTriggerShow := showUnsigned fastcomGetRxTrigger

def sampleRateStore := storeUnsigned fastcomSetSampleRate
def sampleRateShow := showUnsigned fun port _ => do
  pure (0, ← fastcomGetSampleRate port)

def txTriggerStore := storeUnsigned fastcomSetTxTrigger
def txTriggerShow := showUnsigned fastcomGetTxTrigger

def terminationStore := storeUnsigned fastcomSetTermination
def terminationShow := showUnsigned fastcomGetTermination

def clockRateStore := storeUnsigned fastcomSetClockRate

def baudRateShow (port : Port) : Driver Text := do
  let (_, value) ← fastcomGetBaudRate port 0
  pure (Nat.toDigits 10 value.toNat ++ ['\n'])

def baudRateStore (port : Port) (text : Text) : Driver Int := do
  let _ ← fastcomSetBaudRate port (simpleStrtoul text 10)
  pure text.length

/-! ## Attributes -/

inductive Attribute
  | nineBit
  | setting (setting : Setting)
  | clockRate
  | baudRate

/-- `clock_rate` has no show handler. -/
def Attribute.showHandler (port : Port) : Attribute → Option (Driver Text)
  | .nineBit => some (nineBitShow port)
  | .setting .rs485 => some (rs485Show port)
  | .setting .echoCancel => some (echoCancelShow port)
  | .setting .termination => some (terminationShow port)
  | .setting .isochronous => some (isochronousShow port)
  | .setting .externalTransmit => some (externalTransmitShow port)
  | .setting .frameLength => some (frameLengthShow port)
  | .setting .txTrigger => some (txTriggerShow port)
  | .setting .rxTrigger => some (rxTriggerShow port)
  | .setting .sampleRate => some (sampleRateShow port)
  | .clockRate => none
  | .baudRate => some (baudRateShow port)

def Attribute.storeHandler (port : Port) (text : Text) :
    Attribute → Driver Int
  | .nineBit => nineBitStore port text
  | .setting .rs485 => rs485Store port text
  | .setting .echoCancel => echoCancelStore port text
  | .setting .termination => terminationStore port text
  | .setting .isochronous => isochronousStore port text
  | .setting .externalTransmit => externalTransmitStore port text
  | .setting .frameLength => frameLengthStore port text
  | .setting .txTrigger => txTriggerStore port text
  | .setting .rxTrigger => rxTriggerStore port text
  | .setting .sampleRate => sampleRateStore port text
  | .clockRate => clockRateStore port text
  | .baudRate => baudRateStore port text

/-- Whenever the attribute shows a text, writing that text back returns,
changes no register but an index, no shadow field, and not what is shown. -/
def WritesBack (port : Port) (state : CardState) (attr : Attribute) :
    Prop :=
  ∀ shown, attr.showHandler port = some shown →
    ∀ text middle, port.card.machine.run shown state = (some text, middle) →
      ∃ count next later,
        port.card.machine.run (attr.storeHandler port text) middle =
            (some count, next) ∧
          SameButIndex state next ∧
          port.card.machine.run shown next = (some text, later)

theorem writesBack_iff_of_run {port : Port} {attr : Attribute}
    {shown : Driver Text} {text : Text} {count : Int}
    {state middle next : CardState}
    (isHandler : attr.showHandler port = some shown)
    (runShow : port.card.machine.run shown state = (some text, middle))
    (runStore : port.card.machine.run (attr.storeHandler port text) middle =
      (some count, next))
    (shownAgain : SameButIndex state next →
      ∃ later, port.card.machine.run shown next = (some text, later)) :
    WritesBack port state attr ↔ SameButIndex state next := by
  constructor
  · intro writesBack
    rcases writesBack shown isHandler text middle runShow with
      ⟨actualCount, after, later, run, same, _⟩
    rw [runStore] at run
    rcases Prod.mk.inj run with ⟨_, rfl⟩
    exact same
  · intro same handler alsoHandler actualText between run
    rw [isHandler] at alsoHandler
    rcases Option.some.inj alsoHandler with rfl
    rw [runShow] at run
    rcases Prod.mk.inj run with ⟨isText, rfl⟩
    rcases Option.some.inj isText with rfl
    rcases shownAgain same with ⟨later, runAgain⟩
    exact ⟨count, next, later, runStore, same, runAgain⟩

theorem writesBack_of_trap {port : Port} {attr : Attribute} {state : CardState}
    (traps : ∀ shown, attr.showHandler port = some shown →
      (port.card.machine.run shown state).1 = none) :
    WritesBack port state attr := by
  intro shown isHandler text middle run
  have trapped := traps shown isHandler
  rw [run] at trapped
  cases trapped

/-! ## Settings -/

def rereadUnsigned (value : BitVec 32) : BitVec 32 :=
  (simpleStrtoul (printInt value.toInt ++ ['\n']) 16).setWidth 32

theorem Attribute.showHandler_setting (port : Port) (setting : Setting) :
    (Attribute.setting setting).showHandler port =
      some (showUnsigned (fun port before => setting.get port before) port) := by
  cases setting <;> rfl

theorem Attribute.run_storeHandler_setting {port : Port} {setting : Setting}
    {state next : CardState} {status : Int} (text : Text)
    (run : port.card.machine.run
      (setting.set port ((simpleStrtoul text 16).setWidth 32)) state =
        (some status, next)) :
    port.card.machine.run ((Attribute.setting setting).storeHandler port text)
      state = (some (text.length : Int), next) := by
  have stored : port.card.machine.run
      (storeUnsigned (fun port value => setting.set port value) port text)
      state = (some (text.length : Int), next) := by
    rw [storeUnsigned, Machine.run_bind, run]
    rfl
  cases setting with
  | echoCancel =>
      rw [← stored]
      simp [storeHandler, echoCancelStore, storeUnsigned, Setting.set]
  | _ => exact stored

theorem writesBack_setting_iff_of_run {port : Port} {setting : Setting}
    {state middle next : CardState} {status written : Int}
    {shown : BitVec 32}
    (runGet : port.card.machine.run (setting.get port 0) state =
      (some (status, shown), middle))
    (reported : ∀ next, SameButIndex state next → ∃ status later,
      port.card.machine.run (setting.get port 0) next =
        (some (status, shown), later))
    (runSet : port.card.machine.run
      (setting.set port (rereadUnsigned shown)) middle = (some written, next)) :
    WritesBack port state (.setting setting) ↔ SameButIndex state next := by
  have runShow : ∀ {before after : CardState} {status : Int},
      port.card.machine.run (setting.get port 0) before =
        (some (status, shown), after) →
      port.card.machine.run
        (showUnsigned (fun port before => setting.get port before) port)
        before = (some (printInt shown.toInt ++ ['\n']), after) := by
    intro before after status run
    rw [showUnsigned, Machine.run_bind, run]
    rfl
  have runStore := Attribute.run_storeHandler_setting
    (printInt shown.toInt ++ ['\n']) runSet
  apply writesBack_iff_of_run (Attribute.showHandler_setting port setting)
    (runShow runGet) runStore
  intro same
  rcases reported next same with ⟨status, later, runAgain⟩
  exact ⟨later, runShow runAgain⟩

theorem writesBack_setting_iff {Accepted Unchanged : Prop} {port : Port}
    {setting : Setting} {state middle : CardState} {answer : Int × BitVec 32}
    (runGet : port.card.machine.run (setting.get port 0) state =
      (some answer, middle))
    (sameMiddle : SameButIndex state middle)
    (reported : ∀ next, SameButIndex state next → ∃ later,
      port.card.machine.run (setting.get port 0) next = (some answer, later))
    (accepts : Accepted → ∃ next, port.card.machine.run
        (setting.set port (rereadUnsigned answer.2)) middle = (some 0, next) ∧
      (SameButIndex middle next ↔ Unchanged))
    (refuses : ¬Accepted → ∃ status, port.card.machine.run
      (setting.set port (rereadUnsigned answer.2)) middle =
        (some status, middle)) :
    WritesBack port state (.setting setting) ↔ (Accepted → Unchanged) := by
  have reportedAgain : ∀ next, SameButIndex state next → ∃ status later,
      port.card.machine.run (setting.get port 0) next =
        (some (status, answer.2), later) := by
    intro next same
    rcases reported next same with ⟨later, run⟩
    exact ⟨answer.1, later, run⟩
  by_cases accepted : Accepted
  · rcases accepts accepted with ⟨next, runSet, unchanged⟩
    rw [writesBack_setting_iff_of_run runGet reportedAgain runSet]
    constructor
    · intro same _
      exact unchanged.mp (sameMiddle.symm.trans same)
    · intro same
      exact sameMiddle.trans (unchanged.mpr (same accepted))
  · rcases refuses accepted with ⟨status, runSet⟩
    rw [writesBack_setting_iff_of_run runGet reportedAgain runSet]
    exact iff_of_true sameMiddle fun isAccepted => absurd isAccepted accepted

/-! ## Values reread -/

theorem rereadUnsigned_of_nonneg {value : BitVec 32}
    (nonnegative : value.toNat < 0x80000000)
    (fits : reread 16 value.toNat < 0x100000000) :
    (rereadUnsigned value).toNat = reread 16 value.toNat := by
  have isInt : value.toInt = (value.toNat : Int) := by
    rw [BitVec.toInt_eq_toNat_cond]
    omega
  have printed : printInt value.toInt = Nat.toDigits 10 value.toNat := by
    rw [isInt, printInt, if_neg (by omega), Int.natAbs_natCast]
  rw [rereadUnsigned, printed, simpleStrtoul, readNumeral_line (by decide),
    BitVec.toNat_setWidth, BitVec.toNat_ofNat]
  omega

/-- Up to the largest character count nothing is cut off. -/
theorem toNat_rereadUnsigned {value : BitVec 32} (small : value.toNat ≤ 8191) :
    (rereadUnsigned value).toNat = reread 16 value.toNat := by
  have grows : reread 16 value.toNat ≤ reread 16 8191 :=
    (reread_strictMono (by decide)).monotone small
  have largest : reread 16 8191 = 33169 := by decide
  apply rereadUnsigned_of_nonneg
  · omega
  · omega

theorem rereadUnsigned_of_lt_ten {value : BitVec 32} (small : value.toNat < 10) :
    rereadUnsigned value = value := by
  apply BitVec.eq_of_toNat_eq
  rw [toNat_rereadUnsigned (by omega), reread_of_lt_ten small]

theorem rereadUnsigned_neg_one : rereadUnsigned (-1) = 0 := by
  have minus : printInt (-1 : BitVec 32).toInt ++ ['\n'] =
      '-' :: (Nat.toDigits 10 1 ++ ['\n']) := rfl
  rw [rereadUnsigned, minus, simpleStrtoul, readNumeral_minus]
  rfl

end SerialFc
