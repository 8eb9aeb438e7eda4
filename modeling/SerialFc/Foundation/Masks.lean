import Mathlib.Logic.Basic
import Mathlib.Tactic.ByContra

/-! # Switching the bits of a mask

Register fields of one or more bits are switched on and off by a read, an
`or` with a mask or an `and` with its complement, and a write. Two fields are
independent when their masks share no bit.
-/

namespace SerialFc

variable {w : Nat}

/-- `word` with all bits of `mask` set or cleared. -/
def switchBits (on : Bool) (mask word : BitVec w) : BitVec w :=
  if on then word ||| mask else word &&& ~~~mask

theorem getLsbD_switchBits (on : Bool) (mask word : BitVec w) (bit : Nat) :
    (switchBits on mask word).getLsbD bit =
      if mask.getLsbD bit then on else word.getLsbD bit := by
  cases on with
  | false =>
      by_cases inside : bit < w
      · simp only [switchBits, Bool.false_eq_true, if_false,
          BitVec.getLsbD_and, BitVec.getLsbD_not, inside, decide_true]
        cases mask.getLsbD bit <;> simp
      · simp [switchBits, BitVec.getLsbD_of_ge _ _ (Nat.le_of_not_lt inside)]
  | true =>
      cases selected : mask.getLsbD bit <;> simp [switchBits, selected]

theorem getLsbD_eq_false_of_disjoint {mask other : BitVec w}
    (disjoint : mask &&& other = 0#w) {bit : Nat}
    (selected : other.getLsbD bit = true) : mask.getLsbD bit = false := by
  have both := congrArg (fun word => word.getLsbD bit) disjoint
  simpa [selected] using both

theorem switchBits_and_mask (on : Bool) (mask word : BitVec w) :
    switchBits on mask word &&& mask = if on then mask else 0#w := by
  apply BitVec.eq_of_getLsbD_eq
  intro bit _
  rw [BitVec.getLsbD_and, getLsbD_switchBits]
  cases selected : mask.getLsbD bit <;> cases on <;> simp [selected]

theorem switchBits_and_of_disjoint (on : Bool) {mask other : BitVec w}
    (disjoint : mask &&& other = 0#w) (word : BitVec w) :
    switchBits on mask word &&& other = word &&& other := by
  apply BitVec.eq_of_getLsbD_eq
  intro bit _
  rw [BitVec.getLsbD_and, BitVec.getLsbD_and, getLsbD_switchBits]
  cases selected : other.getLsbD bit with
  | false => simp
  | true => simp [getLsbD_eq_false_of_disjoint disjoint selected]

theorem switchBits_eq_self {on : Bool} {mask word : BitVec w}
    (same : word &&& mask = if on then mask else 0#w) :
    switchBits on mask word = word := by
  apply BitVec.eq_of_getLsbD_eq
  intro bit _
  have atBit := congrArg (fun word => word.getLsbD bit) same
  simp only [BitVec.getLsbD_and] at atBit
  rw [getLsbD_switchBits]
  cases selected : mask.getLsbD bit with
  | false => simp
  | true => cases on <;> simpa [selected] using atBit.symm

def anySet (word mask : BitVec w) : Bool :=
  decide (word &&& mask ≠ 0#w)

theorem anySet_switchBits (on : Bool) {mask : BitVec w}
    (nonempty : mask ≠ 0#w) (word : BitVec w) :
    anySet (switchBits on mask word) mask = on := by
  rw [anySet, switchBits_and_mask]
  cases on <;> simp [nonempty]

theorem anySet_switchBits_of_disjoint (on : Bool) {mask other : BitVec w}
    (disjoint : mask &&& other = 0#w) (word : BitVec w) :
    anySet (switchBits on mask word) other = anySet word other := by
  rw [anySet, anySet, switchBits_and_of_disjoint on disjoint]

/-! ## One bit for each channel -/

theorem shiftedOne_disjoint {left right : Nat} (different : left ≠ right) :
    (1#w <<< left) &&& (1#w <<< right) = 0#w := by
  apply BitVec.eq_of_getLsbD_eq
  intro bit inside
  simp only [BitVec.getLsbD_and, BitVec.getLsbD_shiftLeft, BitVec.getLsbD_one,
    BitVec.getLsbD_zero, inside, decide_true, Bool.true_and]
  by_cases isLeft : bit = left
  · have notRight : bit < right ∨ bit - right ≠ 0 := by omega
    rcases notRight with below | above
    · simp [below]
    · simp [above]
  · have notLeft : bit < left ∨ bit - left ≠ 0 := by omega
    rcases notLeft with below | above
    · simp [below]
    · simp [above]

theorem shiftedOne_ne_zero {channel : Nat} (small : channel < w) :
    1#w <<< channel ≠ 0#w := by
  intro zero
  have atBit := congrArg (fun word => word.getLsbD channel) zero
  simp [small] at atBit

theorem getLsbD_switchBits_shiftedOne (on : Bool) {position : Nat}
    (small : position < w) (word : BitVec w) (bit : Nat) :
    (switchBits on (1#w <<< position) word).getLsbD bit =
      if bit = position then on else word.getLsbD bit := by
  have selects : (1#w <<< position).getLsbD bit = decide (bit = position) := by
    by_cases same : bit = position
    · simp [same, small]
    · have apart : bit < position ∨ bit - position ≠ 0 := by omega
      rcases apart with below | above
      · simp [below, same]
      · simp [above, same]
  simp only [getLsbD_switchBits, selects, decide_eq_true_eq]

theorem anySet_shiftedOne {channel : Nat} (small : channel < w)
    (word : BitVec w) :
    anySet word (1#w <<< channel) = word.getLsbD channel := by
  have atBit : (word &&& 1#w <<< channel).getLsbD channel =
      word.getLsbD channel := by
    simp [small]
  cases set : word.getLsbD channel with
  | true =>
      have nonzero : word &&& 1#w <<< channel ≠ 0#w := by
        intro zero
        rw [zero, set] at atBit
        simp at atBit
      simp [anySet, nonzero]
  | false =>
      have zero : word &&& 1#w <<< channel = 0#w := by
        apply BitVec.eq_of_getLsbD_eq
        intro bit inside
        by_cases same : bit = channel
        · subst same
          rw [atBit, set]
          simp
        · have apart : bit < channel ∨ bit - channel ≠ 0 := by omega
          rcases apart with below | above
          · simp [below]
          · simp [above]
      simp [anySet, zero]

theorem switchBits_shiftedOne_of_anySet {on : Bool} {channel : Nat}
    {word : BitVec w} (same : anySet word (1#w <<< channel) = on) :
    switchBits on (1#w <<< channel) word = word := by
  apply BitVec.eq_of_getLsbD_eq
  intro bit inside
  rw [getLsbD_switchBits]
  split
  case isTrue selected =>
    have isChannel : bit = channel := by
      by_contra different
      have apart : bit < channel ∨ bit - channel ≠ 0 := by omega
      rcases apart with below | above
      · simp [below] at selected
      · simp [above] at selected
    subst isChannel
    rw [← same, anySet_shiftedOne inside]
  case isFalse => rfl

end SerialFc
