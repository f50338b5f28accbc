import Mathlib.Data.List.Basic
import UserRegistry.Text.Scalar

/-!
# Scanning numerals

Both notations are read from left to right, and a numeral is as long as its digits
last.  A written numeral is therefore read back only in front of a character that
ends it.  In what the printers write that is always one of the `delimiters`, so that
`Delimited` is the one condition on the text behind a value.
-/

namespace UserRegistry

namespace Text

/-- The characters that may stand behind a value that is not enclosed. -/
def delimiters : List Char :=
  [',', ']', '}', '\n']

/-- A text that is empty or starts with a delimiter. -/
def Delimited (rest : List Char) : Prop :=
  ∀ c ∈ rest.head?, c ∈ delimiters

theorem delimited_nil : Delimited [] := by
  intro c first
  contradiction

theorem delimited_cons {c : Char} (rest : List Char) (delimiter : c ∈ delimiters) :
    Delimited (c :: rest) := by
  intro first equality
  cases equality
  exact delimiter

variable {accepts : Char → Bool} {front rest : List Char}

theorem takeWhile_of_refused (accepted : ∀ c ∈ front, accepts c = true)
    (refused : ∀ c ∈ rest.head?, accepts c = false) :
    (front ++ rest).takeWhile accepts = front := by
  rw [List.takeWhile_append_of_pos accepted]
  cases rest with
  | nil => exact List.append_nil front
  | cons c rest =>
      rw [List.takeWhile_cons_of_neg (by simp [refused c rfl]), List.append_nil]

theorem dropWhile_of_refused (accepted : ∀ c ∈ front, accepts c = true)
    (refused : ∀ c ∈ rest.head?, accepts c = false) :
    (front ++ rest).dropWhile accepts = rest := by
  rw [List.dropWhile_append_of_pos accepted]
  cases rest with
  | nil => rfl
  | cons c rest => rw [List.dropWhile_cons_of_neg (by simp [refused c rfl])]

/-- A run of accepted characters ends at a delimiter that is not accepted. -/
theorem takeWhile_of_delimited (closed : ∀ c ∈ delimiters, accepts c = false)
    (accepted : ∀ c ∈ front, accepts c = true) (delimited : Delimited rest) :
    (front ++ rest).takeWhile accepts = front :=
  takeWhile_of_refused accepted fun c first => closed c (delimited c first)

theorem dropWhile_of_delimited (closed : ∀ c ∈ delimiters, accepts c = false)
    (accepted : ∀ c ∈ front, accepts c = true) (delimited : Delimited rest) :
    (front ++ rest).dropWhile accepts = rest :=
  dropWhile_of_refused accepted fun c first => closed c (delimited c first)

/-- Two texts that agree agree up to their first mark and behind it. -/
theorem eq_of_marked {mark : Char} {first second firstRest secondRest : List Char}
    (firstFree : mark ∉ first) (secondFree : mark ∉ second)
    (equality : first ++ mark :: firstRest = second ++ mark :: secondRest) :
    first = second ∧ firstRest = secondRest := by
  induction first generalizing second with
  | nil =>
      cases second with
      | nil => exact ⟨rfl, (List.cons.inj equality).2⟩
      | cons d second =>
          have here := (List.cons.inj equality).1
          exact absurd (here ▸ List.mem_cons_self) secondFree
  | cons c first induction =>
      cases second with
      | nil =>
          have here := (List.cons.inj equality).1
          exact absurd (here ▸ List.mem_cons_self) firstFree
      | cons d second =>
          obtain ⟨same, rest⟩ := List.cons.inj equality
          obtain ⟨fronts, rests⟩ := induction (List.not_mem_of_not_mem_cons firstFree)
            (List.not_mem_of_not_mem_cons secondFree) rest
          exact ⟨same ▸ fronts ▸ rfl, rests⟩

theorem isDigit_delimiter : ∀ c ∈ delimiters, c.isDigit = false := by
  intro c delimiter
  simp only [delimiters, List.mem_cons, List.not_mem_nil, or_false] at delimiter
  rcases delimiter with rfl | rfl | rfl | rfl <;> rfl

theorem scalar?_toNat (c : Char) : scalar? c.toNat = some c := by
  have valid : c.toNat.isValidChar := c.valid
  rw [scalar?, if_pos valid, Char.ofNat_toNat]

end Text

namespace Numeral

/-! ## Digits -/

theorem digit?_of_isDigit {c : Char} (digit : c.isDigit = true) :
    digit? 10 c = some (c.toNat - '0'.toNat) := by
  have range : '0' ≤ c ∧ c ≤ '9' := Char.isDigit_iff_toNat.mp digit
  have small : c.toNat - '0'.toNat < 10 := by
    have upper : c.toNat ≤ 57 := range.2
    have zero : '0'.toNat = 48 := rfl
    omega
  rw [digit?, if_pos range]
  exact Option.filter_some_pos (by simpa using small)

theorem digit?_delimiter : ∀ c ∈ Text.delimiters, digit? 10 c = none := by
  intro c delimiter
  simp only [Text.delimiters, List.mem_cons, List.not_mem_nil, or_false] at delimiter
  rcases delimiter with rfl | rfl | rfl | rfl <;> rfl

theorem digit?_digitChar : ∀ digit < 16, digit? 16 digit.digitChar = some digit := by
  decide

/-- A small code point, written as two zeros and two hexadecimal digits. -/
theorem read?_hexadecimal (code : Nat) (small : code < 256) :
    read? 16 ['0', '0', (code / 16).digitChar, (code % 16).digitChar] = some code := by
  have high := digit?_digitChar (code / 16) (by omega)
  have low := digit?_digitChar (code % 16) (by omega)
  have zero : digit? 16 '0' = some 0 := by decide
  have value : ofDigits 16 [0, 0, code / 16, code % 16] = code := by
    simp only [ofDigits, List.foldl_cons, List.foldl_nil]
    omega
  simp [read?, zero, high, low, value]

/-! ## Decimal numerals -/

theorem isDigit_of_mem_decimal {n : Nat} {c : Char} (inside : c ∈ decimal n) :
    c.isDigit = true :=
  Nat.isDigit_of_mem_toDigits (by omega) (by omega) inside

theorem decimal_ne_nil (n : Nat) : decimal n ≠ [] :=
  Nat.toDigits_ne_nil

theorem ofDigitChars_decimal (n : Nat) : Nat.ofDigitChars 10 (decimal n) 0 = n :=
  Nat.ofDigitChars_ten_toDigits

theorem head?_decimal_ne_zero {n : Nat} (positive : 0 < n) :
    (decimal n).head? ≠ some '0' := by
  induction n using Nat.strongRecOn with
  | ind n induction =>
      unfold decimal
      by_cases small : n < 10
      · rw [Nat.toDigits_of_lt_base small]
        intro zero
        have isZero : n = 0 := Nat.digitChar_eq_zero.mp (Option.some.inj zero)
        omega
      · rw [Nat.toDigits_of_base_le (by omega) (by omega),
          List.head?_append_of_ne_nil _ Nat.toDigits_ne_nil]
        exact induction (n / 10) (by omega) (by omega)

theorem decimal_of_head?_zero {n : Nat}
    (zero : (decimal n).head? = some '0') : decimal n = ['0'] := by
  rcases Nat.eq_zero_or_pos n with rfl | positive
  · rfl
  · exact absurd zero (head?_decimal_ne_zero positive)

theorem signed_start (n : Int) :
    ∃ c tail, signed n = c :: tail ∧ (c.isDigit = true ∨ c = '-') := by
  cases n with
  | ofNat n =>
      obtain ⟨c, digits, equality⟩ := List.exists_cons_of_ne_nil (decimal_ne_nil n)
      refine ⟨c, digits, equality, .inl ?_⟩
      exact isDigit_of_mem_decimal (equality ▸ List.mem_cons_self)
  | negSucc n => exact ⟨'-', _, rfl, .inr rfl⟩

end Numeral

end UserRegistry
