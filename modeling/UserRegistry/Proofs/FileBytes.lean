import UserRegistry.Files
import UserRegistry.Proofs.RunAndSession

/-!
# Bytes of files

A file is read as the text whose encoding its bytes are, and refused if there is none.
`Utf8.IsCharacter` and `Utf8.Fault` say byte by byte what may follow the encoding of a
text: the bytes of one more character, or a fault.  Each excludes the other, and one of
them is found unless nothing follows.
-/

namespace UserRegistry

namespace Utf8

/-! ## Characters and faults -/

/-- Whether a byte stands behind the first byte of a character. -/
def continues (byte : UInt8) : Bool :=
  0x80 ≤ byte.toNat && byte.toNat ≤ 0xBF

/-- The bytes of a character: the first tells how many follow.  The second is bounded where
a shorter form, a surrogate or a number above the last character would come out. -/
inductive IsCharacter : List UInt8 → Prop where
  | one {first : UInt8} (ascii : first.toNat ≤ 0x7F) : IsCharacter [first]
  | two {first second : UInt8} (least : 0xC2 ≤ first.toNat) (most : first.toNat ≤ 0xDF)
      (secondContinues : continues second) : IsCharacter [first, second]
  | three {first second third : UInt8} (least : 0xE0 ≤ first.toNat)
      (most : first.toNat ≤ 0xEF) (secondContinues : continues second)
      (thirdContinues : continues third)
      (noShorter : first.toNat = 0xE0 → 0xA0 ≤ second.toNat)
      (noSurrogate : first.toNat = 0xED → second.toNat ≤ 0x9F) :
      IsCharacter [first, second, third]
  | four {first second third fourth : UInt8} (least : 0xF0 ≤ first.toNat)
      (most : first.toNat ≤ 0xF4) (secondContinues : continues second)
      (thirdContinues : continues third) (fourthContinues : continues fourth)
      (noShorter : first.toNat = 0xF0 → 0x90 ≤ second.toNat)
      (notAbove : first.toNat = 0xF4 → second.toNat ≤ 0x8F) :
      IsCharacter [first, second, third, fourth]

/-- How many bytes follow the first byte of a character. -/
def following (first : UInt8) : Nat :=
  if first.toNat < 0xE0 then 1 else if first.toNat < 0xF0 then 2 else 3

/-- Bytes at whose start no character stands. -/
inductive Fault : List UInt8 → Prop where
  | stray {first : UInt8} {rest : List UInt8} (isContinued : continues first) :
      Fault (first :: rest)
  | overlongTwo {first : UInt8} {rest : List UInt8} (least : 0xC0 ≤ first.toNat)
      (most : first.toNat ≤ 0xC1) : Fault (first :: rest)
  | overlongThree {first second : UInt8} {rest : List UInt8} (lead : first.toNat = 0xE0)
      (secondContinues : continues second) (shorter : second.toNat ≤ 0x9F) :
      Fault (first :: second :: rest)
  | overlongFour {first second : UInt8} {rest : List UInt8} (lead : first.toNat = 0xF0)
      (secondContinues : continues second) (shorter : second.toNat ≤ 0x8F) :
      Fault (first :: second :: rest)
  | surrogate {first second : UInt8} {rest : List UInt8} (lead : first.toNat = 0xED)
      (secondContinues : continues second) (upper : 0xA0 ≤ second.toNat) :
      Fault (first :: second :: rest)
  | aboveLast {first second : UInt8} {rest : List UInt8} (lead : first.toNat = 0xF4)
      (secondContinues : continues second) (above : 0x90 ≤ second.toNat) :
      Fault (first :: second :: rest)
  | farAboveLast {first : UInt8} {rest : List UInt8} (least : 0xF5 ≤ first.toNat) :
      Fault (first :: rest)
  | truncated {first : UInt8} {rest : List UInt8} (least : 0xC2 ≤ first.toNat)
      (most : first.toNat ≤ 0xF4)
      (missing : (rest.takeWhile continues).length < following first) :
      Fault (first :: rest)

theorem following_of_two {first : UInt8} (most : first.toNat ≤ 0xDF) : following first = 1 :=
  if_pos (by omega)

theorem following_of_three {first : UInt8} (least : 0xE0 ≤ first.toNat)
    (most : first.toNat ≤ 0xEF) : following first = 2 := by
  rw [following, if_neg (by omega), if_pos (by omega)]

theorem following_of_four {first : UInt8} (least : 0xF0 ≤ first.toNat) :
    following first = 3 := by
  rw [following, if_neg (by omega), if_neg (by omega)]

theorem continues_iff {byte : UInt8} :
    continues byte = true ↔ 0x80 ≤ byte.toNat ∧ byte.toNat ≤ 0xBF := by
  simp [continues]

theorem isCharacter_utf8EncodeChar (c : Char) : IsCharacter (String.utf8EncodeChar c) := by
  have valid : c.val.toNat < 0xD800 ∨ 0xDFFF < c.val.toNat ∧ c.val.toNat < 0x110000 := c.valid
  unfold String.utf8EncodeChar
  dsimp only
  split
  · refine .one ?_
    rw [UInt8.toNat_ofNat']
    omega
  · split
    · refine .two ?_ ?_ (continues_iff.mpr ⟨?_, ?_⟩) <;> rw [UInt8.toNat_ofNat'] <;> omega
    · split
      · refine .three ?_ ?_ (continues_iff.mpr ⟨?_, ?_⟩) (continues_iff.mpr ⟨?_, ?_⟩) ?_ ?_ <;>
          simp only [UInt8.toNat_ofNat'] <;> omega
      · refine .four ?_ ?_ (continues_iff.mpr ⟨?_, ?_⟩) (continues_iff.mpr ⟨?_, ?_⟩)
          (continues_iff.mpr ⟨?_, ?_⟩) ?_ ?_ <;> simp only [UInt8.toNat_ofNat'] <;> omega

theorem toNat_val_ofNat {n : Nat} (valid : n.isValidChar) : (Char.ofNat n).val.toNat = n := by
  rw [Char.ofNat, dif_pos valid]
  rfl

theorem exists_utf8EncodeChar_eq {bytes : List UInt8} (character : IsCharacter bytes) :
    ∃ c : Char, String.utf8EncodeChar c = bytes := by
  -- the number of the character is read from the low bits of the bytes
  cases character with
  | @one first ascii =>
      have valid : first.toNat.isValidChar := .inl (by omega)
      refine ⟨.ofNat first.toNat, ?_⟩
      rw [String.utf8EncodeChar, toNat_val_ofNat valid]
      simp [ascii]
  | @two first second least most secondContinues =>
      obtain ⟨lower, upper⟩ := continues_iff.mp secondContinues
      let n := (first.toNat - 0xC0) * 64 + (second.toNat - 0x80)
      have valid : n.isValidChar := .inl (by omega)
      refine ⟨.ofNat n, ?_⟩
      rw [String.utf8EncodeChar, toNat_val_ofNat valid, if_neg (by omega), if_pos (by omega)]
      simp only [List.cons.injEq, UInt8.ofNat_eq_iff_mod_eq_toNat, and_true]
      omega
  | @three first second third least most secondContinues thirdContinues noShorter noSurrogate =>
      obtain ⟨secondLower, secondUpper⟩ := continues_iff.mp secondContinues
      obtain ⟨thirdLower, thirdUpper⟩ := continues_iff.mp thirdContinues
      let n := (first.toNat - 0xE0) * 4096 + (second.toNat - 0x80) * 64 + (third.toNat - 0x80)
      have valid : n.isValidChar := by
        unfold Nat.isValidChar
        omega
      refine ⟨.ofNat n, ?_⟩
      rw [String.utf8EncodeChar, toNat_val_ofNat valid, if_neg (by omega), if_neg (by omega),
        if_pos (by omega)]
      simp only [List.cons.injEq, UInt8.ofNat_eq_iff_mod_eq_toNat, and_true]
      omega
  | @four first second third fourth least most secondContinues thirdContinues fourthContinues
      noShorter notAbove =>
      obtain ⟨secondLower, secondUpper⟩ := continues_iff.mp secondContinues
      obtain ⟨thirdLower, thirdUpper⟩ := continues_iff.mp thirdContinues
      obtain ⟨fourthLower, fourthUpper⟩ := continues_iff.mp fourthContinues
      let n := (first.toNat - 0xF0) * 262144 + (second.toNat - 0x80) * 4096 +
        (third.toNat - 0x80) * 64 + (fourth.toNat - 0x80)
      have valid : n.isValidChar := .inr (by omega)
      refine ⟨.ofNat n, ?_⟩
      rw [String.utf8EncodeChar, toNat_val_ofNat valid, if_neg (by omega), if_neg (by omega),
        if_neg (by omega)]
      simp only [List.cons.injEq, UInt8.ofNat_eq_iff_mod_eq_toNat, and_true]
      omega

/-! ## What stands at the start of bytes -/

/-- If enough bytes continue a character, the first of them can be taken off. -/
theorem exists_continuation {rest : List UInt8} {count : Nat}
    (enough : count ≤ (rest.takeWhile continues).length) :
    ∃ taken more, rest = taken ++ more ∧ taken.length = count ∧
      ∀ byte ∈ taken, continues byte = true := by
  refine ⟨(rest.takeWhile continues).take count,
    (rest.takeWhile continues).drop count ++ rest.dropWhile continues, ?_, ?_, ?_⟩
  · rw [← List.append_assoc, List.take_append_drop, List.takeWhile_append_dropWhile]
  · rw [List.length_take, Nat.min_eq_left enough]
  · intro byte member
    exact List.all_eq_true.mp List.all_takeWhile byte (List.mem_of_mem_take member)

theorem isCharacter_or_fault (first : UInt8) (rest : List UInt8) :
    (∃ front behind, first :: rest = front ++ behind ∧ IsCharacter front) ∨
      Fault (first :: rest) := by
  by_cases ascii : first.toNat ≤ 0x7F
  · exact .inl ⟨[first], rest, rfl, .one ascii⟩
  by_cases isContinued : first.toNat ≤ 0xBF
  · exact .inr (.stray (continues_iff.mpr ⟨by omega, isContinued⟩))
  by_cases overlong : first.toNat ≤ 0xC1
  · exact .inr (.overlongTwo (by omega) overlong)
  by_cases above : 0xF5 ≤ first.toNat
  · exact .inr (.farAboveLast above)
  by_cases missing : (rest.takeWhile continues).length < following first
  · exact .inr (.truncated (by omega) (by omega) missing)
  obtain ⟨taken, more, rfl, length, continued⟩ := exists_continuation (Nat.not_lt.mp missing)
  by_cases two : first.toNat ≤ 0xDF
  · rw [following_of_two two] at length
    obtain ⟨second, rfl⟩ := List.length_eq_one_iff.mp length
    rw [List.forall_mem_singleton] at continued
    exact .inl ⟨[first, second], more, rfl, .two (by omega) two continued⟩
  by_cases three : first.toNat ≤ 0xEF
  · rw [following_of_three (by omega) three] at length
    obtain ⟨second, third, rfl⟩ := List.length_eq_two.mp length
    rw [List.forall_mem_cons, List.forall_mem_singleton] at continued
    by_cases shorter : first.toNat = 0xE0 ∧ second.toNat ≤ 0x9F
    · exact .inr (.overlongThree shorter.1 continued.1 shorter.2)
    by_cases surrogate : first.toNat = 0xED ∧ 0xA0 ≤ second.toNat
    · exact .inr (.surrogate surrogate.1 continued.1 surrogate.2)
    · exact .inl ⟨[first, second, third], more, rfl, .three (by omega) three continued.1
        continued.2 (by omega) (by omega)⟩
  · rw [following_of_four (by omega)] at length
    obtain ⟨second, third, fourth, rfl⟩ := List.length_eq_three.mp length
    rw [List.forall_mem_cons, List.forall_mem_cons, List.forall_mem_singleton] at continued
    by_cases shorter : first.toNat = 0xF0 ∧ second.toNat ≤ 0x8F
    · exact .inr (.overlongFour shorter.1 continued.1 shorter.2)
    by_cases last : first.toNat = 0xF4 ∧ 0x90 ≤ second.toNat
    · exact .inr (.aboveLast last.1 continued.1 last.2)
    · exact .inl ⟨[first, second, third, fourth], more, rfl, .four (by omega) (by omega)
        continued.1 continued.2.1 continued.2.2 (by omega) (by omega)⟩

theorem length_le_takeWhile {front : List UInt8} (continued : ∀ byte ∈ front, continues byte)
    (behind : List UInt8) : front.length ≤ ((front ++ behind).takeWhile continues).length := by
  rw [List.takeWhile_append_of_pos continued, List.length_append]
  exact Nat.le_add_right _ _

theorem not_fault_of_isCharacter {front : List UInt8} (character : IsCharacter front)
    (behind : List UInt8) : ¬ Fault (front ++ behind) := by
  intro fault
  cases character with
  | one ascii =>
      cases fault with
      | stray isContinued =>
          obtain ⟨lower, _⟩ := continues_iff.mp isContinued
          omega
      | _ => omega
  | two least most secondContinues =>
      cases fault with
      | stray isContinued =>
          obtain ⟨_, upper⟩ := continues_iff.mp isContinued
          omega
      | truncated _ _ missing =>
          have enough := length_le_takeWhile (List.forall_mem_singleton.mpr secondContinues) behind
          rw [following_of_two most] at missing
          exact absurd missing (Nat.not_lt.mpr enough)
      | _ => omega
  | three least most secondContinues thirdContinues noShorter noSurrogate =>
      cases fault with
      | stray isContinued =>
          obtain ⟨_, upper⟩ := continues_iff.mp isContinued
          omega
      | truncated _ _ missing =>
          have enough := length_le_takeWhile (List.forall_mem_cons.mpr
            ⟨secondContinues, List.forall_mem_singleton.mpr thirdContinues⟩) behind
          rw [following_of_three least most] at missing
          exact absurd missing (Nat.not_lt.mpr enough)
      | _ => omega
  | four least most secondContinues thirdContinues fourthContinues noShorter notAbove =>
      cases fault with
      | stray isContinued =>
          obtain ⟨_, upper⟩ := continues_iff.mp isContinued
          omega
      | truncated _ _ missing =>
          have enough := length_le_takeWhile (List.forall_mem_cons.mpr
            ⟨secondContinues, List.forall_mem_cons.mpr
              ⟨thirdContinues, List.forall_mem_singleton.mpr fourthContinues⟩⟩) behind
          rw [following_of_four least] at missing
          exact absurd missing (Nat.not_lt.mpr enough)
      | _ => omega

/-! ## Texts and what follows them -/

theorem bytes_ofList (chars : List Char) :
    Text.bytes (.ofList chars) = chars.flatMap String.utf8EncodeChar := by
  rw [Text.bytes, String.toUTF8_eq_toByteArray, String.toByteArray_ofList, List.utf8Encode]
  simp

/-- All bytes are those of a text up to a fault, if there is one. -/
theorem exists_text_and_fault (bytes : List UInt8) :
    ∃ (chars : List Char) (rest : List UInt8),
      bytes = chars.flatMap String.utf8EncodeChar ++ rest ∧ (rest = [] ∨ Fault rest) := by
  induction length : bytes.length using Nat.strong_induction_on generalizing bytes with
  | _ size induction =>
      cases bytes with
      | nil => exact ⟨[], [], rfl, .inl rfl⟩
      | cons first more =>
          rcases isCharacter_or_fault first more with ⟨front, behind, split, character⟩ | fault
          · obtain ⟨c, rfl⟩ := exists_utf8EncodeChar_eq character
            have shorter : behind.length < size := by
              have total := congrArg List.length split
              rw [List.length_append, String.length_utf8EncodeChar] at total
              have positive := c.utf8Size_pos
              omega
            obtain ⟨chars, rest, equality, ending⟩ := induction _ shorter behind rfl
            refine ⟨c :: chars, rest, ?_, ending⟩
            rw [split, equality, List.flatMap_cons, List.append_assoc]
          · exact ⟨[], first :: more, rfl, .inr fault⟩

/-- The encodings of characters do not continue one another. -/
theorem utf8EncodeChar_append_inj {c d : Char} {rest other : List UInt8}
    (same : String.utf8EncodeChar c ++ rest = String.utf8EncodeChar d ++ other) :
    c = d ∧ rest = other := by
  have decoded (c : Char) (rest : List UInt8) :
      (String.utf8EncodeChar c ++ rest).toByteArray.utf8DecodeChar? 0 = some c := by
    rw [List.toByteArray_append]
    exact ByteArray.utf8DecodeChar?_utf8EncodeChar_append
  have first : some c = some d := by rw [← decoded c rest, ← decoded d other, same]
  cases first
  exact ⟨rfl, List.append_cancel_left same⟩

theorem not_text_of_fault (chars : List Char) {rest : List UInt8} (fault : Fault rest)
    (others : List Char) :
    chars.flatMap String.utf8EncodeChar ++ rest ≠ others.flatMap String.utf8EncodeChar := by
  induction chars generalizing others with
  | nil =>
      cases others with
      | nil =>
          intro same
          cases fault <;> cases same
      | cons d others =>
          intro same
          rw [List.flatMap_nil, List.nil_append, List.flatMap_cons] at same
          exact not_fault_of_isCharacter (isCharacter_utf8EncodeChar d) _ (same ▸ fault)
  | cons c chars induction =>
      cases others with
      | nil =>
          intro same
          have empty := congrArg List.length same
          rw [List.flatMap_cons, List.length_append, List.length_append,
            String.length_utf8EncodeChar] at empty
          have positive := c.utf8Size_pos
          simp at empty
          omega
      | cons d others =>
          intro same
          rw [List.flatMap_cons, List.append_assoc, List.flatMap_cons] at same
          exact induction others (utf8EncodeChar_append_inj same).2

end Utf8

namespace Config

theorem eq_toUTF8_iff {bytes : ByteArray} {text : String} :
    bytes = text.toUTF8 ↔ bytes.data.toList = text.toList.flatMap String.utf8EncodeChar := by
  rw [← Utf8.bytes_ofList, String.ofList_toList, Text.bytes]
  constructor
  · intro same
    rw [same]
  · intro same
    exact ByteArray.ext (Array.toList_inj.mp same)

theorem fromUTF8?_eq_none {bytes : ByteArray} (noText : ∀ text : String, bytes ≠ text.toUTF8) :
    String.fromUTF8? bytes = none := by
  refine dif_neg ?_
  intro valid
  exact noText (.fromUTF8 bytes valid) rfl

/-- A file whose bytes are the encoding of a text is loaded as that text; any other is refused
as unreadable, whatever stands in it before its first fault.  Without a fault there is a
text. -/
theorem load_of_file_bytes (tree : FileTree) (path : String) (bytes : ByteArray)
    (found : tree.read path = .ok bytes) :
    (∀ text : String, bytes = text.toUTF8 → load path (tree.read path) = parse text) ∧
      ((∀ text : String, bytes ≠ text.toUTF8) →
        ∃ error, load path (tree.read path) = .error error ∧
          error.message = "Failed to read config file: " ++ path ∧
          error.cause? = some "stream did not contain valid UTF-8") ∧
      ((∀ text : String, bytes ≠ text.toUTF8) ↔
        ∃ (before : String) (rest : List UInt8),
          bytes.data.toList = Text.bytes before ++ rest ∧ Utf8.Fault rest) := by
  refine ⟨?_, ?_, ?_, ?_⟩
  · rintro text rfl
    rw [found, load_toUTF8]
  · intro noText
    refine ⟨.unreadable path .notText, ?_, ?_, rfl⟩
    · simp only [found, load, fromUTF8?_eq_none noText]
    · simp [LoadError.message]
  · intro noText
    obtain ⟨chars, rest, split, ending⟩ := Utf8.exists_text_and_fault bytes.data.toList
    rw [← Utf8.bytes_ofList] at split
    refine ⟨.ofList chars, rest, split, ending.resolve_left ?_⟩
    rintro rfl
    refine noText (.ofList chars) (eq_toUTF8_iff.mpr ?_)
    rw [split, List.append_nil, Utf8.bytes_ofList, String.toList_ofList]
  · rintro ⟨before, rest, split, fault⟩ text same
    rw [← String.ofList_toList (s := before), Utf8.bytes_ofList, eq_toUTF8_iff.mp same] at split
    exact Utf8.not_text_of_fault before.toList fault text.toList split.symm

/-- A file that would be loaded but for a surrogate in its last comment. -/
theorem load_of_surrogate :
    let before := "memory.user_capacity = 1 # "
    let bytes := before.toUTF8 ++ ⟨#[0xED, 0xA0, 0x80]⟩
    let tree := FileTree.directory [("a.toml", .file bytes)]
    (parse before).isOk = true ∧
      ∃ error, load "a.toml" (tree.read "a.toml") = .error error ∧
        error.message = "Failed to read config file: a.toml" ∧
        error.cause? = some "stream did not contain valid UTF-8" := by
  intro before bytes tree
  have found : tree.read "a.toml" = .ok bytes := by decide +kernel
  obtain ⟨_, refused, noText⟩ := load_of_file_bytes tree "a.toml" bytes found
  refine ⟨by decide +kernel, refused (noText.mpr ⟨before, [0xED, 0xA0, 0x80], ?_, ?_⟩)⟩
  · rfl
  · exact .surrogate rfl rfl (by decide)

end Config

end UserRegistry
