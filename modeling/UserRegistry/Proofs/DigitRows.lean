import Mathlib.Data.List.Induction
import UserRegistry.Proofs.Scanning

/-!
# Rows of digits

A numeral of a fixed width is a row of that many digits, and every row of digits is the
numeral of its value.  Such a numeral needs no delimiter behind it: reading a number of
digits off a text takes exactly the numeral that was written there.
-/

namespace UserRegistry.Numeral

variable {width n : Nat} {digits : List Char}

/-! ## Padded numerals -/

theorem length_padded (positive : 0 < width) (bound : n < Nat.pow 10 width) :
    (padded width n).length = width := by
  have short : (decimal n).length ≤ width :=
    (Nat.length_toDigits_le_iff (by omega) positive).mpr bound
  rw [padded, List.length_append, List.length_replicate]
  omega

theorem ofDigitChars_padded (width n : Nat) :
    Nat.ofDigitChars 10 (padded width n) 0 = n := by
  rw [padded, Nat.ofDigitChars_append, Nat.ofDigitChars_replicate_zero, Nat.mul_zero,
    ofDigitChars_decimal]

theorem padded_injective (width : Nat) : Function.Injective (padded width) := by
  intro left right equality
  rw [← ofDigitChars_padded width left, equality, ofDigitChars_padded]

theorem padded_append_injective {left right : Nat} {leftRest rightRest : List Char}
    (positive : 0 < width) (leftBound : left < Nat.pow 10 width)
    (rightBound : right < Nat.pow 10 width)
    (equality : padded width left ++ leftRest = padded width right ++ rightRest) :
    left = right ∧ leftRest = rightRest := by
  have lengths : (padded width left).length = (padded width right).length := by
    rw [length_padded positive leftBound, length_padded positive rightBound]
  obtain ⟨digits, rests⟩ := List.append_inj equality lengths
  exact ⟨padded_injective width digits, rests⟩

theorem isDigit_of_mem_padded {c : Char} (inside : c ∈ padded width n) :
    c.isDigit = true := by
  rcases List.mem_append.mp inside with zeros | digits
  · rw [List.eq_of_mem_replicate zeros]
    rfl
  · exact isDigit_of_mem_decimal digits

theorem not_mem_padded {c : Char} (noDigit : c.isDigit = false) : c ∉ padded width n := by
  intro inside
  rw [isDigit_of_mem_padded inside] at noDigit
  contradiction

theorem padded_start (width n : Nat) :
    ∃ c tail, padded width n = c :: tail ∧ c.isDigit = true := by
  have nonempty : padded width n ≠ [] := by simp [padded, decimal_ne_nil]
  obtain ⟨c, tail, row⟩ := List.exists_cons_of_ne_nil nonempty
  exact ⟨c, tail, row, isDigit_of_mem_padded (row ▸ List.mem_cons_self)⟩

/-- A numeral that fills its width has no zero in front. -/
theorem padded_eq_decimal (long : width ≤ (decimal n).length) : padded width n = decimal n := by
  rw [padded, Nat.sub_eq_zero_of_le long, List.replicate_zero, List.nil_append]

/-- The last digit of a padded numeral stands behind the padded numeral of the others. -/
theorem padded_succ (positive : 0 < width) (n : Nat) :
    padded (width + 1) n = padded width (n / 10) ++ [(n % 10).digitChar] := by
  obtain ⟨width, rfl⟩ := Nat.exists_eq_succ_of_ne_zero (Nat.ne_of_gt positive)
  by_cases small : n < 10
  · rw [Nat.div_eq_of_lt small, Nat.mod_eq_of_lt small, padded, padded, decimal, decimal,
      Nat.toDigits_of_lt_base small, Nat.toDigits_zero]
    simp [List.replicate_succ']
  · rw [padded, padded, decimal, decimal, Nat.toDigits_of_base_le (by omega) (by omega)]
    simp

/-! ## Rows of digits -/

theorem digitChar_of_isDigit {c : Char} (digit : c.isDigit = true) :
    c.toNat - 48 < 10 ∧ (c.toNat - 48).digitChar = c := by
  obtain ⟨lower, upper⟩ := Char.isDigit_iff_toNat.mp digit
  have lower : 48 ≤ c.toNat := lower
  have upper : c.toNat ≤ 57 := upper
  have decoded : ∀ k < 10, k.digitChar = Char.ofNat (k + 48) := by decide
  refine ⟨by omega, ?_⟩
  rw [decoded _ (by omega), Nat.sub_add_cancel lower, Char.ofNat_toNat]

theorem ofDigitChars_append (front behind : List Char) :
    Nat.ofDigitChars 10 (front ++ behind) 0 =
      Nat.pow 10 behind.length * Nat.ofDigitChars 10 front 0
        + Nat.ofDigitChars 10 behind 0 := by
  rw [Nat.ofDigitChars_append, Nat.ofDigitChars_eq_ofDigitChars_zero]
  rfl

theorem ofDigitChars_append_singleton (digits : List Char) (last : Char) :
    Nat.ofDigitChars 10 (digits ++ [last]) 0 =
      10 * Nat.ofDigitChars 10 digits 0 + (last.toNat - 48) := by
  rw [Nat.ofDigitChars_append, Nat.ofDigitChars_cons, Nat.ofDigitChars_nil]
  rfl

theorem pow_add (first second : Nat) :
    Nat.pow 10 (first + second) = Nat.pow 10 first * Nat.pow 10 second :=
  Nat.pow_add 10 first second

theorem pow_pos (width : Nat) : 0 < Nat.pow 10 width :=
  Nat.pow_pos (by omega)

theorem ofDigitChars_lt (isDigit : ∀ c ∈ digits, c.isDigit = true) :
    Nat.ofDigitChars 10 digits 0 < Nat.pow 10 digits.length := by
  induction digits using List.reverseRecOn with
  | nil => exact Nat.one_pos
  | append_singleton digits last induction =>
      have front := induction fun c inside => isDigit c (List.mem_append_left _ inside)
      have small := (digitChar_of_isDigit (isDigit last (by simp))).1
      rw [ofDigitChars_append_singleton, List.length_append, List.length_singleton]
      show _ < Nat.pow 10 digits.length * 10
      omega

theorem padded_ofDigitChars (nonempty : digits ≠ [])
    (isDigit : ∀ c ∈ digits, c.isDigit = true) :
    padded digits.length (Nat.ofDigitChars 10 digits 0) = digits := by
  induction digits using List.reverseRecOn with
  | nil => contradiction
  | append_singleton digits last induction =>
      obtain ⟨small, back⟩ := digitChar_of_isDigit (isDigit last (by simp))
      rw [ofDigitChars_append_singleton, List.length_append, List.length_singleton]
      cases digits with
      | nil =>
          rw [Nat.ofDigitChars_nil, Nat.mul_zero, Nat.zero_add, List.length_nil,
            padded_eq_decimal (List.length_pos_iff.mpr (decimal_ne_nil _)), decimal,
            Nat.toDigits_of_lt_base small, back]
          rfl
      | cons c digits =>
          have front := induction (List.cons_ne_nil c digits)
            fun c inside => isDigit c (List.mem_append_left _ inside)
          rw [padded_succ (by simp), Nat.mul_add_div (by omega), Nat.div_eq_of_lt small,
            Nat.add_zero, front, Nat.mul_add_mod, Nat.mod_eq_of_lt small, back]

/-! ## Reading rows of digits -/

theorem isDigit_of_digit? {c : Char} {digit : Nat} (read : digit? 10 c = some digit) :
    c.isDigit = true := by
  by_contra noDigit
  have outside : ¬ ('0' ≤ c ∧ c ≤ '9') :=
    fun range => noDigit (Char.isDigit_iff_toNat.mpr range)
  rw [digit?, if_neg outside] at read
  obtain ⟨value, small⟩ := Option.filter_eq_some_iff.mp read
  have large : 10 ≤ digit := by
    split at value
    · cases value
      omega
    · split at value
      · cases value
        omega
      · contradiction
  simp at small
  omega

theorem isDigit_of_mapM {values : List Nat} (read : digits.mapM (digit? 10) = some values) :
    ∀ c ∈ digits, c.isDigit = true := by
  induction digits generalizing values with
  | nil =>
      intro c inside
      contradiction
  | cons first digits induction =>
      rw [List.mapM_cons] at read
      obtain ⟨digit, head, rest⟩ := Option.bind_eq_some_iff.mp read
      obtain ⟨others, tail, _⟩ := Option.bind_eq_some_iff.mp rest
      intro c inside
      rcases List.mem_cons.mp inside with rfl | later
      · exact isDigit_of_digit? head
      · exact induction tail c later

/-- The values of the digits of a row. -/
def values (digits : List Char) : List Nat :=
  digits.map fun c => c.toNat - '0'.toNat

theorem ofDigits_values (digits : List Char) :
    ofDigits 10 (values digits) = Nat.ofDigitChars 10 digits 0 := by
  rw [ofDigits, values, List.foldl_map]
  rfl

theorem mapM_digit? (isDigit : ∀ c ∈ digits, c.isDigit = true) :
    digits.mapM (digit? 10) = some (values digits) := by
  induction digits with
  | nil => rfl
  | cons c digits induction =>
      have head := digit?_of_isDigit (isDigit c List.mem_cons_self)
      have tail := induction fun d inside => isDigit d (List.mem_cons_of_mem c inside)
      rw [List.mapM_cons, head, tail]
      rfl

theorem filterMap_digit? (isDigit : ∀ c ∈ digits, c.isDigit = true) :
    digits.filterMap (digit? 10) = values digits := by
  rw [values, ← List.filterMap_eq_map]
  exact List.filterMap_congr fun c inside => digit?_of_isDigit (isDigit c inside)

theorem take?_row (isDigit : ∀ c ∈ digits, c.isDigit = true) (rest : List Char) :
    take? 10 digits.length (digits ++ rest) =
      some (Nat.ofDigitChars 10 digits 0, rest) := by
  rw [take?, List.take_left, List.drop_left, if_neg (Nat.lt_irrefl _), mapM_digit? isDigit,
    Option.map_some, ofDigits_values]

theorem take?_eq_some {count value : Nat} {text behind : List Char}
    (taken : take? 10 count text = some (value, behind)) :
    ∃ front, front.length = count ∧ text = front ++ behind ∧
      ∀ c ∈ front, c.isDigit = true := by
  rw [take?] at taken
  split at taken
  · contradiction
  · rename_i long
    obtain ⟨values, read, equality⟩ := Option.map_eq_some_iff.mp taken
    cases equality
    refine ⟨text.take count, ?_, (List.take_append_drop count text).symm,
      isDigit_of_mapM read⟩
    rw [List.length_take] at long ⊢
    omega

/-- Reading digits takes the padded numeral of their number off a text. -/
theorem take?_eq_some_iff {text rest : List Char} (positive : 0 < width) :
    take? 10 width text = some (n, rest) ↔
      n < Nat.pow 10 width ∧ text = padded width n ++ rest := by
  constructor
  · intro taken
    obtain ⟨front, rfl, rfl, isDigit⟩ := take?_eq_some taken
    rw [take?_row isDigit] at taken
    cases taken
    have nonempty : front ≠ [] := List.ne_nil_of_length_pos positive
    exact ⟨ofDigitChars_lt isDigit, by rw [padded_ofDigitChars nonempty isDigit]⟩
  · rintro ⟨bound, rfl⟩
    have isDigit : ∀ c ∈ padded width n, c.isDigit = true :=
      fun c inside => isDigit_of_mem_padded inside
    have row := take?_row isDigit rest
    rwa [length_padded positive bound, ofDigitChars_padded] at row

theorem take?_padded (positive : 0 < width) (bound : n < Nat.pow 10 width)
    (rest : List Char) : take? 10 width (padded width n ++ rest) = some (n, rest) :=
  (take?_eq_some_iff positive).mpr ⟨bound, rfl⟩

/-! ## Two digits -/

theorem lt_of_two_digits (bound : n ≤ 99) : n < Nat.pow 10 2 :=
  Nat.lt_of_le_of_lt bound (by decide)

theorem take?_two (bound : n ≤ 99) (rest : List Char) :
    take? 10 2 (padded 2 n ++ rest) = some (n, rest) :=
  take?_padded (Nat.succ_pos 1) (lt_of_two_digits bound) rest

theorem two_append_injective {left right : Nat} {leftRest rightRest : List Char}
    (leftBound : left ≤ 99) (rightBound : right ≤ 99)
    (equality : padded 2 left ++ leftRest = padded 2 right ++ rightRest) :
    left = right ∧ leftRest = rightRest :=
  padded_append_injective (Nat.succ_pos 1) (lt_of_two_digits leftBound)
    (lt_of_two_digits rightBound) equality

end UserRegistry.Numeral
