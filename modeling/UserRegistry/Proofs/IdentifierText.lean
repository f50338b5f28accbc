import UserRegistry.Proofs.Scanning
import UserRegistry.Uuid

/-!
# Texts of identifiers

The text of an identifier is made of five rows of hexadecimal digits, each of which
holds a part of the identifier's number.  Reading the rows in turn and putting the
parts together gives the identifier back, so that no two have the same text.
-/

namespace UserRegistry

namespace Numeral

theorem ofDigits_concat (base : Nat) (digits : List Nat) (digit : Nat) :
    ofDigits base (digits ++ [digit]) = base * ofDigits base digits + digit := by
  rw [ofDigits, List.foldl_append]
  rfl

end Numeral

namespace Uuid

/-! ## Rows of digits -/

theorem length_hexDigits (count n : Nat) : (hexDigits count n).length = count := by
  induction count generalizing n with
  | zero => rfl
  | succ count induction => simp [hexDigits, induction]

theorem hexDigits_add (leading others n : Nat) :
    hexDigits (leading + others) n =
      hexDigits leading (n / Nat.pow 16 others) ++ hexDigits others n := by
  induction others generalizing n with
  | zero => simp [hexDigits]
  | succ others induction =>
      rw [← Nat.add_assoc, hexDigits, induction, hexDigits, Nat.div_div_eq_div_mul,
        Nat.pow_eq, Nat.pow_eq, ← Nat.pow_add_one', List.append_assoc]

theorem mapM_hexDigits (count n : Nat) :
    ∃ digits, (hexDigits count n).mapM (Numeral.digit? 16) = some digits ∧
      Numeral.ofDigits 16 digits = n % Nat.pow 16 count := by
  induction count generalizing n with
  | zero => exact ⟨[], rfl, (Nat.mod_one n).symm⟩
  | succ count induction =>
      obtain ⟨digits, read, value⟩ := induction (n / 16)
      have last := Numeral.digit?_digitChar (n % 16) (Nat.mod_lt n (by omega))
      refine ⟨digits ++ [n % 16], ?_, ?_⟩
      · simp [hexDigits, List.mapM_append, read, last]
      · rw [Numeral.ofDigits_concat, value, Nat.pow_eq, Nat.pow_eq, Nat.pow_succ,
          Nat.mul_comm (16 ^ count), Nat.mod_mul]
        omega

/-- Taking a row of digits off a text gives what the row can hold of its number. -/
theorem take?_hexDigits (count n : Nat) (rest : List Char) :
    Numeral.take? 16 count (hexDigits count n ++ rest) =
      some (n % Nat.pow 16 count, rest) := by
  obtain ⟨digits, read, value⟩ := mapM_hexDigits count n
  have length := length_hexDigits count n
  have front : (hexDigits count n ++ rest).take count = hexDigits count n :=
    List.take_left' length
  have behind : (hexDigits count n ++ rest).drop count = rest :=
    List.drop_left' length
  simp [Numeral.take?, front, behind, length, read, value]

/-! ## Texts -/

theorem hyphenated_append {first second third fourth : List Char} (fifth : List Char)
    (firstLength : first.length = 8) (secondLength : second.length = 4)
    (thirdLength : third.length = 4) (fourthLength : fourth.length = 4) :
    hyphenated (first ++ (second ++ (third ++ (fourth ++ fifth)))) =
      first ++ '-' :: (second ++ '-' :: (third ++ '-' :: (fourth ++ '-' :: fifth))) := by
  simp (disch := omega) [hyphenated, List.drop_append, List.drop_eq_nil_of_le,
    firstLength, secondLength, thirdLength]

theorem text_toList (id : Uuid) :
    id.text.toList =
      hexDigits 8 (id.bits.toNat / Nat.pow 16 24)
        ++ '-' :: (hexDigits 4 (id.bits.toNat / Nat.pow 16 20)
        ++ '-' :: (hexDigits 4 (id.bits.toNat / Nat.pow 16 16)
        ++ '-' :: (hexDigits 4 (id.bits.toNat / Nat.pow 16 12)
        ++ '-' :: hexDigits 12 id.bits.toNat))) := by
  rw [text, String.toList_ofList, ← hyphenated_append _ (length_hexDigits 8 _)
    (length_hexDigits 4 _) (length_hexDigits 4 _) (length_hexDigits 4 _)]
  rw [hexDigits_add 8 24, hexDigits_add 4 20, hexDigits_add 4 16, hexDigits_add 4 12]

/-- The parts of a number of 128 bits that the five rows hold make up the number. -/
theorem parts_eq {n : Nat} (bound : n < Nat.pow 2 128) :
    [ (8, n / Nat.pow 16 24 % Nat.pow 16 8), (4, n / Nat.pow 16 20 % Nat.pow 16 4),
      (4, n / Nat.pow 16 16 % Nat.pow 16 4), (4, n / Nat.pow 16 12 % Nat.pow 16 4),
      (12, n % Nat.pow 16 12) ].foldl
        (fun total (width, part) => total * Nat.pow 16 width + part) 0 = n := by
  simp only [List.foldl_cons, List.foldl_nil, Nat.pow_eq, Nat.reducePow] at bound ⊢
  omega

theorem ofText?_text (id : Uuid) : ofText? id.text = some id := by
  have last := take?_hexDigits 12 id.bits.toNat []
  rw [List.append_nil] at last
  simp only [ofText?, text_toList, take?_hexDigits, last, Option.bind_eq_bind,
    Option.bind_some, parts_eq id.bits.isLt, BitVec.ofNat_toNat, BitVec.setWidth_eq]
  rfl

theorem text_injective : Function.Injective text := by
  intro left right equality
  have read := congrArg ofText? equality
  rw [ofText?_text, ofText?_text] at read
  exact Option.some.inj read

end Uuid

end UserRegistry
