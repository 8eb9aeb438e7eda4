/-! # Command numbers

An ioctl command number packs the direction of the copy, the size of what is
copied, the type of the driver and the number of the command into 32 bits. A
driver looks the number up among its own.
-/

namespace SerialFc

structure CommandNumber where
  dir : BitVec 2
  size : BitVec 14
  type : BitVec 8
  nr : BitVec 8
  deriving DecidableEq

namespace CommandNumber

def encode (number : CommandNumber) : BitVec 32 :=
  number.dir ++ number.size ++ number.type ++ number.nr

def decode (cmd : BitVec 32) : CommandNumber where
  dir := cmd.extractLsb' 30 2
  size := cmd.extractLsb' 16 14
  type := cmd.extractLsb' 8 8
  nr := cmd.extractLsb' 0 8

@[simp] theorem decode_encode (number : CommandNumber) :
    decode number.encode = number := by
  rcases number with ⟨dir, size, type, nr⟩
  simp only [decode, encode, mk.injEq]
  refine ⟨?_, ?_, ?_, ?_⟩
  -- Each bit of a field lies beyond the fields that are below.
  all_goals
    apply BitVec.eq_of_getLsbD_eq
    intro index inRange
    simp only [BitVec.getLsbD_extractLsb', inRange, decide_true, Bool.true_and,
      BitVec.getLsbD_append]
  · rw [if_neg (by omega), if_neg (by omega), if_neg (by omega)]
    congr 1
    omega
  · rw [if_neg (by omega), if_neg (by omega), if_pos (by omega)]
    congr 1
    omega
  · rw [if_neg (by omega), if_pos (by omega)]
    congr 1
    omega
  · rw [if_pos (by omega), Nat.zero_add]

@[simp] theorem encode_decode (cmd : BitVec 32) : (decode cmd).encode = cmd := by
  have high : cmd.extractLsb' 30 2 ++ cmd.extractLsb' 16 14 = cmd.extractLsb' 16 16 :=
    BitVec.extractLsb'_append_extractLsb'_eq_extractLsb' rfl
  have middle : cmd.extractLsb' 16 16 ++ cmd.extractLsb' 8 8 = cmd.extractLsb' 8 24 :=
    BitVec.extractLsb'_append_extractLsb'_eq_extractLsb' rfl
  have low : cmd.extractLsb' 8 24 ++ cmd.extractLsb' 0 8 = cmd.extractLsb' 0 32 :=
    BitVec.extractLsb'_append_extractLsb'_eq_extractLsb' rfl
  calc
    (decode cmd).encode = cmd.extractLsb' 16 16 ++ cmd.extractLsb' 8 8 ++
        cmd.extractLsb' 0 8 := by
      rw [← high]
      rfl
    _ = cmd.extractLsb' 8 24 ++ cmd.extractLsb' 0 8 := by
      rw [← middle]
    _ = cmd := low.trans BitVec.extractLsb'_eq_self

/-- `_IO`: nothing is copied. -/
def io (type nr : BitVec 8) : CommandNumber := ⟨0, 0, type, nr⟩

/-- `_IOW`: user space writes. -/
def iow (type nr : BitVec 8) (size : BitVec 14) : CommandNumber := ⟨1, size, type, nr⟩

/-- `_IOR`: user space reads. -/
def ior (type nr : BitVec 8) (size : BitVec 14) : CommandNumber := ⟨2, size, type, nr⟩

end CommandNumber

/-! ## Looking numbers up -/

variable {Case : Type} {label : Case → Option CommandNumber} {cases : List Case}

/-- The first of the cases that has the number as its label. -/
def selectCase (label : Case → Option CommandNumber) (cases : List Case)
    (cmd : BitVec 32) : Option Case :=
  cases.find? fun case => (label case).map CommandNumber.encode = some cmd

def LabelsDistinct (label : Case → Option CommandNumber) (cases : List Case) : Prop :=
  ∀ first ∈ cases, ∀ second ∈ cases, ∀ number,
    label first = some number → label second = some number → first = second

/-- Where the labels are distinct, the first case is the only one. -/
theorem selectCase_eq_some_iff (distinct : LabelsDistinct label cases) {cmd : BitVec 32}
    {case : Case} :
    selectCase label cases cmd = some case ↔
      case ∈ cases ∧ label case = some (.decode cmd) := by
  have labelled : ∀ case, (label case).map CommandNumber.encode = some cmd ↔
      label case = some (.decode cmd) := by
    intro case
    rw [Option.map_eq_some_iff]
    constructor
    · rintro ⟨number, isLabel, rfl⟩
      rw [isLabel, CommandNumber.decode_encode]
    · intro isLabel
      exact ⟨_, isLabel, CommandNumber.encode_decode cmd⟩
  simp only [selectCase, labelled]
  constructor
  · intro selected
    exact ⟨List.mem_of_find?_eq_some selected,
      by simpa using List.find?_some selected⟩
  · rintro ⟨member, isLabel⟩
    cases selected : cases.find? fun case => label case = some (.decode cmd) with
    | none =>
        have absent := List.find?_eq_none.mp selected case member
        exact absurd isLabel (by simpa using absent)
    | some other =>
        have otherLabel : label other = some (.decode cmd) := by
          simpa using List.find?_some selected
        rw [distinct other (List.mem_of_find?_eq_some selected) case member _ otherLabel
          isLabel]

end SerialFc
