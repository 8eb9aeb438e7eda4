import Mathlib.Data.Nat.Digits.Defs
import Mathlib.Order.Monotone.Basic

/-! # Printing and reading numerals

Numbers are printed in decimal and read back in any base from ten upwards.
Reading takes the longest prefix of digits of the base. What a decimal numeral
comes to in a larger base grows with the number, and is the number itself only
below ten.
-/

namespace SerialFc

/-! ## Reading -/

def digitValue (c : Char) : Option Nat :=
  if '0'.toNat ≤ c.toNat ∧ c.toNat ≤ '9'.toNat then
    some (c.toNat - '0'.toNat)
  else if 'a'.toNat ≤ c.toNat ∧ c.toNat ≤ 'f'.toNat then
    some (c.toNat - 'a'.toNat + 10)
  else if 'A'.toNat ≤ c.toNat ∧ c.toNat ≤ 'F'.toNat then
    some (c.toNat - 'A'.toNat + 10)
  else
    none

/-- The longest prefix of digits of the base, read after those that made up
`soFar`. -/
def readDigits (base : Nat) : List Char → Nat → Nat
  | [], soFar => soFar
  | c :: later, soFar =>
      match digitValue c with
      | some digit =>
          if digit < base then readDigits base later (base * soFar + digit)
          else soFar
      | none => soFar

/-- A hexadecimal numeral may start with `0x`. -/
def skipPrefix (base : Nat) (text : List Char) : List Char :=
  if base = 16 ∧ text[0]? = some '0' ∧
      (text[1]? = some 'x' ∨ text[1]? = some 'X') then
    text.drop 2
  else
    text

def readNumeral (base : Nat) (text : List Char) : Nat :=
  readDigits base (skipPrefix base text) 0

/-! ## Complete numerals -/

def lineOf (text : List Char) : List Char :=
  if text.getLast? = some '\n' then text.dropLast else text

/-- The text is a line of digits of the base and nothing else, and `value` is
the number that they stand for. -/
def Denotes (base : Nat) (text : List Char) (value : Nat) : Prop :=
  ∃ digits : List Nat, digits ≠ [] ∧ (∀ digit ∈ digits, digit < base) ∧
    (skipPrefix base (lineOf text)).map digitValue = digits.map some ∧
    value = Nat.ofDigits base digits.reverse

def EndsLine (rest : List Char) : Prop := rest = [] ∨ rest = ['\n']

theorem exists_lineOf (text : List Char) :
    ∃ rest, EndsLine rest ∧ text = lineOf text ++ rest := by
  unfold lineOf
  split
  case isTrue newline =>
    rcases List.getLast?_eq_some_iff.mp newline with ⟨line, rfl⟩
    exact ⟨['\n'], .inr rfl, by rw [List.dropLast_concat]⟩
  case isFalse => exact ⟨[], .inl rfl, (List.append_nil text).symm⟩

theorem skipPrefix_append (base : Nat) (line : List Char) {rest : List Char}
    (ends : EndsLine rest) :
    skipPrefix base (line ++ rest) = skipPrefix base line ++ rest := by
  rcases ends with rfl | rfl
  · rw [List.append_nil, List.append_nil]
  · match line with
    | [] => simp [skipPrefix]
    | [c] => simp [skipPrefix]
    | first :: second :: later =>
        simp only [skipPrefix, List.cons_append, List.getElem?_cons_zero,
          List.getElem?_cons_succ, List.drop_succ_cons, List.drop_zero]
        split <;> rfl

theorem readDigits_endsLine (base : Nat) {rest : List Char}
    (ends : EndsLine rest) (soFar : Nat) :
    readDigits base rest soFar = soFar := by
  rcases ends with rfl | rfl <;> rfl

theorem readDigits_line {base : Nat} {rest : List Char} (ends : EndsLine rest)
    {line : List Char} {digits : List Nat}
    (inBase : ∀ digit ∈ digits, digit < base)
    (areDigits : line.map digitValue = digits.map some) (soFar : Nat) :
    readDigits base (line ++ rest) soFar =
      digits.foldl (fun value digit => digit + base * value) soFar := by
  induction line generalizing digits soFar with
  | nil =>
      obtain rfl : digits = [] := by
        simpa using areDigits.symm
      exact readDigits_endsLine base ends soFar
  | cons c line induction =>
      match digits with
      | [] => cases areDigits
      | digit :: digits =>
          rw [List.map_cons, List.map_cons, List.cons.injEq] at areDigits
          rw [List.cons_append, readDigits, areDigits.1]
          simp only [if_pos (inBase digit List.mem_cons_self)]
          rw [induction (fun other member =>
            inBase other (List.mem_cons_of_mem _ member)) areDigits.2,
            List.foldl_cons, Nat.add_comm]

theorem Denotes.readNumeral {base : Nat} {text : List Char} {value : Nat}
    (denotes : Denotes base text value) : readNumeral base text = value := by
  rcases denotes with ⟨digits, _, inBase, areDigits, rfl⟩
  rcases exists_lineOf text with ⟨rest, ends, split⟩
  rw [SerialFc.readNumeral]
  nth_rewrite 1 [split]
  rw [skipPrefix_append base _ ends, readDigits_line ends inBase areDigits,
    Nat.ofDigits_eq_foldr, List.foldr_reverse]
  rfl

/-! ## Printing -/

def printInt (value : Int) : List Char :=
  if value < 0 then '-' :: Nat.toDigits 10 value.natAbs
  else Nat.toDigits 10 value.natAbs

/-! ## Reading what was printed -/

theorem digitValue_of_isDigit {c : Char} (isDigit : c.isDigit = true) :
    ∃ digit, digitValue c = some digit ∧ digit < 10 ∧
      digit = c.toNat - '0'.toNat := by
  have range : '0'.toNat ≤ c.toNat ∧ c.toNat ≤ '9'.toNat := by
    simp only [Char.isDigit, Bool.and_eq_true, decide_eq_true_eq,
      UInt32.le_iff_toNat_le, ge_iff_le] at isDigit
    exact isDigit
  refine ⟨c.toNat - '0'.toNat, if_pos range, ?_, rfl⟩
  have zero : '0'.toNat = 48 := rfl
  have nine : '9'.toNat = 57 := rfl
  omega

theorem readDigits_append {base : Nat} (large : 10 ≤ base) {digits : List Char}
    (areDigits : ∀ c ∈ digits, c.isDigit = true) (later : List Char)
    (soFar : Nat) :
    readDigits base (digits ++ later) soFar =
      readDigits base later (Nat.ofDigitChars base digits soFar) := by
  induction digits generalizing soFar with
  | nil => rfl
  | cons c digits induction =>
      rcases digitValue_of_isDigit (areDigits c List.mem_cons_self) with
        ⟨digit, value, small, isDigit⟩
      have inBase : digit < base := by omega
      rw [List.cons_append, readDigits, value]
      simp only [if_pos inBase]
      rw [induction fun c member => areDigits c (List.mem_cons_of_mem _ member),
        Nat.ofDigitChars_cons, ← isDigit]

/-- The number whose numeral in another base is the decimal one of `n`. -/
def reread (base n : Nat) : Nat :=
  Nat.ofDigitChars base (Nat.toDigits 10 n) 0

theorem areDigits_toDigits (n : Nat) :
    ∀ c ∈ Nat.toDigits 10 n, c.isDigit = true :=
  fun _ member => Nat.isDigit_of_mem_toDigits (by decide) (by decide) member

theorem skipPrefix_line (base n : Nat) :
    skipPrefix base (Nat.toDigits 10 n ++ ['\n']) =
      Nat.toDigits 10 n ++ ['\n'] := by
  refine if_neg ?_
  rintro ⟨_, _, second⟩
  have members : ∀ c, (Nat.toDigits 10 n ++ ['\n'])[1]? = some c →
      c.isDigit = true ∨ c = '\n' := by
    intro c isSecond
    rcases List.mem_append.mp (List.mem_of_getElem? isSecond) with
      inDigits | isNewline
    · exact .inl (areDigits_toDigits n c inDigits)
    · exact .inr (List.mem_singleton.mp isNewline)
  rcases second with isX | isX
  · rcases members _ isX with isDigit | isNewline <;> simp at *
  · rcases members _ isX with isDigit | isNewline <;> simp at *

theorem readNumeral_line {base : Nat} (large : 10 ≤ base) (n : Nat) :
    readNumeral base (Nat.toDigits 10 n ++ ['\n']) = reread base n := by
  rw [readNumeral, skipPrefix_line,
    readDigits_append large (areDigits_toDigits n)]
  rfl

theorem readNumeral_minus (base : Nat) (text : List Char) :
    readNumeral base ('-' :: text) = 0 := by
  have skipped : skipPrefix base ('-' :: text) = '-' :: text := by
    refine if_neg ?_
    rintro ⟨_, first, _⟩
    simp at first
  rw [readNumeral, skipped]
  rfl

/-! ## Numerals read in another base -/

section Reread

variable {base n : Nat}

theorem reread_of_lt_ten (small : n < 10) : reread base n = n := by
  rw [reread, Nat.toDigits_of_lt_base small,
    Nat.ofDigitChars_cons_digitChar_of_lt_ten small]
  simp

theorem reread_of_ten_le (large : 10 ≤ n) :
    reread base n = base * reread base (n / 10) + n % 10 := by
  have lastDigit : n % 10 < 10 := Nat.mod_lt n (by decide)
  rw [reread, Nat.toDigits_of_base_le (by decide) large,
    Nat.ofDigitChars_append,
    Nat.ofDigitChars_cons_digitChar_of_lt_ten lastDigit]
  rfl

theorem reread_ten (n : Nat) : reread 10 n = n :=
  Nat.ofDigitChars_ten_toDigits

variable (large : 10 ≤ base)
include large

theorem le_reread (n : Nat) : n ≤ reread base n := by
  induction n using Nat.strongRecOn with
  | ind n induction =>
      by_cases small : n < 10
      · rw [reread_of_lt_ten small]
      · have tens := induction (n / 10) (by omega)
        rw [reread_of_ten_le (by omega)]
        have scaled : 10 * (n / 10) ≤ base * reread base (n / 10) :=
          Nat.mul_le_mul large tens
        omega

theorem reread_strictMono : StrictMono (reread base) := by
  intro m n less
  induction n using Nat.strongRecOn generalizing m with
  | ind n induction =>
      by_cases oneDigit : n < 10
      · have short : m < 10 := by omega
        rw [reread_of_lt_ten oneDigit, reread_of_lt_ten short]
        exact less
      · by_cases short : m < 10
        · rw [reread_of_lt_ten short]
          have grows := le_reread large n
          omega
        · have left := @reread_of_ten_le base m (by omega)
          have right := @reread_of_ten_le base n (by omega)
          rw [left, right]
          by_cases sameTens : m / 10 = n / 10
          · rw [sameTens]
            omega
          · have tens : reread base (m / 10) + 1 ≤ reread base (n / 10) :=
              induction (n / 10) (by omega) (by omega)
            have scaled : base * (reread base (m / 10) + 1) ≤
                base * reread base (n / 10) := Nat.mul_le_mul_left base tens
            rw [Nat.mul_add] at scaled
            omega

theorem reread_lt_reread_iff {m n : Nat} :
    reread base m < reread base n ↔ m < n :=
  (reread_strictMono large).lt_iff_lt

omit large in
theorem reread_eq_self_iff (above : 10 < base) : reread base n = n ↔ n < 10 := by
  constructor
  · intro same
    by_contra notSmall
    have tens := le_reread (Nat.le_of_lt above) (n / 10)
    rw [reread_of_ten_le (by omega)] at same
    have scaled : 11 * (n / 10) ≤ base * reread base (n / 10) :=
      Nat.mul_le_mul above tens
    omega
  · exact reread_of_lt_ten

omit large in
/-- If `largest` is the last number whose numeral stays within a limit, then
reading a numeral within the limit gives the number back for single digits
only. -/
theorem reread_within_iff (above : 10 < base) {largest limit : Nat}
    (first : reread base (largest + 1) = limit + 1) :
    (reread base n ≤ limit → reread base n = n) ↔ n < 10 ∨ largest < n := by
  have within : reread base n ≤ limit ↔ n ≤ largest := by
    have less := @reread_lt_reread_iff base (Nat.le_of_lt above) n (largest + 1)
    rw [first] at less
    omega
  rw [within, reread_eq_self_iff above]
  omega

end Reread

example : reread 16 32 = 50 := by decide

end SerialFc
