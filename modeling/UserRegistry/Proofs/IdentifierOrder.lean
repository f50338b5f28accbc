import UserRegistry.Proofs.FreshIdentifiers
import UserRegistry.Proofs.IdentifierText
import UserRegistry.Proofs.Listings
import UserRegistry.Proofs.Members

/-!
# The order of identifiers

Identifiers are ordered as numbers.  A row of hexadecimal digits of a fixed length is
ordered as its number too, since the decimal digits come before the letters, and marks
at the same places of two rows change nothing.  So the listings, in which the identifier
decides between users of one creation time, show the printed identifiers in the order of
their bytes.
-/

namespace UserRegistry

namespace Text

/-! ## Texts of one length -/

theorem append_lt_append_iff {front other : List Char} (rest otherRest : List Char)
    (length : front.length = other.length) :
    front ++ rest < other ++ otherRest ↔
      front < other ∨ front = other ∧ rest < otherRest := by
  induction front generalizing other with
  | nil =>
      obtain rfl : other = [] := List.eq_nil_of_length_eq_zero length.symm
      simp
  | cons c front induction =>
      cases other with
      | nil => contradiction
      | cons d other =>
          rw [List.cons_append, List.cons_append, List.cons_lt_cons_iff,
            List.cons_lt_cons_iff, induction (Nat.succ.inj length), List.cons.injEq]
          tauto

theorem bytes_cons {c : Char} (rest : List Char) (ascii : c.toNat < 0x80) :
    bytes (.ofList (c :: rest)) = c.val.toUInt8 :: bytes (.ofList rest) := by
  have small : c.val ≤ 127 := UInt32.le_iff_toNat_le.mpr (Nat.le_of_lt_succ ascii)
  have alone := String.utf8EncodeChar_eq_singleton (Char.utf8Size_eq_one_iff.mpr small)
  rw [bytes, bytes, String.toUTF8_eq_toByteArray, String.toUTF8_eq_toByteArray,
    String.toByteArray_ofList, String.toByteArray_ofList, List.utf8Encode_cons,
    List.utf8Encode_singleton, alone]
  simp

theorem toUInt8_lt {c d : Char} (ascii : c.toNat < 0x80) (otherAscii : d.toNat < 0x80)
    (smaller : c < d) : c.val.toUInt8 < d.val.toUInt8 := by
  have first : c.val.toNat < 128 := ascii
  have second : d.val.toNat < 128 := otherAscii
  have numbers : c.val.toNat < d.val.toNat := smaller
  rw [UInt8.lt_iff_toNat_lt, UInt32.toNat_toUInt8, UInt32.toNat_toUInt8]
  omega

theorem bytes_lt_of_lt {text other : List Char} (ascii : ∀ c ∈ text, c.toNat < 0x80)
    (otherAscii : ∀ c ∈ other, c.toNat < 0x80) (before : text < other) :
    bytes (.ofList text) < bytes (.ofList other) := by
  induction text generalizing other with
  | nil =>
      cases other with
      | nil => exact absurd before (List.lt_irrefl [])
      | cons d other =>
          rw [bytes_cons other (otherAscii d List.mem_cons_self)]
          exact List.nil_lt_cons _ _
  | cons c text induction =>
      cases other with
      | nil => exact absurd before (List.not_lt_nil _)
      | cons d other =>
          obtain ⟨first, rest⟩ := List.forall_mem_cons.mp ascii
          obtain ⟨otherFirst, otherRest⟩ := List.forall_mem_cons.mp otherAscii
          rw [bytes_cons text first, bytes_cons other otherFirst, List.cons_lt_cons_iff]
          rcases List.cons_lt_cons_iff.mp before with smaller | ⟨rfl, later⟩
          · exact .inl (toUInt8_lt first otherFirst smaller)
          · exact .inr ⟨rfl, induction rest otherRest later⟩

end Text

namespace Uuid

/-! ## Texts -/

theorem digitChar_lt {first second : Nat} (bound : second < 16) (smaller : first < second) :
    first.digitChar < second.digitChar := by
  have all : ∀ second < 16, ∀ first < second, first.digitChar < second.digitChar := by
    decide
  exact all second bound first smaller

/-- Rows of digits are in the order of what they hold of their numbers. -/
theorem hexDigits_lt (count : Nat) {first second : Nat}
    (bound : second < Nat.pow 16 count) (smaller : first < second) :
    hexDigits count first < hexDigits count second := by
  induction count generalizing first second with
  | zero => exact absurd bound (by simp; omega)
  | succ count induction =>
      have length : (hexDigits count (first / 16)).length = _ :=
        (length_hexDigits count _).trans (length_hexDigits count (second / 16)).symm
      rw [hexDigits, hexDigits, Text.append_lt_append_iff _ _ length]
      rcases Nat.lt_or_ge (first / 16) (second / 16) with leading | notLeading
      · have leadingBound : second / 16 < Nat.pow 16 count := by
          rw [Nat.pow_eq, Nat.pow_succ] at bound
          rw [Nat.pow_eq]
          omega
        exact .inl (induction leadingBound leading)
      · have same : first / 16 = second / 16 := by omega
        refine .inr ⟨by rw [same], ?_⟩
        rw [List.cons_lt_cons_iff]
        exact .inl (digitChar_lt (Nat.mod_lt _ (by decide)) (by omega))

/-- Puts a hyphen behind each of some rows of the given widths. -/
def marked : List Nat → List Char → List Char
  | [], rest => rest
  | width :: widths, digits => digits.take width ++ '-' :: marked widths (digits.drop width)

theorem hyphenated_eq_marked (digits : List Char) :
    hyphenated digits = marked [8, 4, 4, 4] digits := by
  simp [hyphenated, marked]

/-- Hyphens at the same places keep the order of two texts of one length. -/
theorem marked_lt (widths : List Nat) {first second : List Char}
    (length : first.length = second.length) (before : first < second) :
    marked widths first < marked widths second := by
  induction widths generalizing first second with
  | nil => exact before
  | cons width widths induction =>
      have front : (first.take width).length = (second.take width).length := by
        rw [List.length_take, List.length_take, length]
      have behind : (first.drop width).length = (second.drop width).length := by
        rw [List.length_drop, List.length_drop, length]
      rw [← List.take_append_drop width first, ← List.take_append_drop width second,
        Text.append_lt_append_iff _ _ front] at before
      rw [marked, marked, Text.append_lt_append_iff _ _ front, List.cons_lt_cons_self]
      rcases before with earlier | ⟨same, later⟩
      · exact .inl earlier
      · exact .inr ⟨same, induction behind later⟩

/-- The digits that are written. -/
def alphabet : List Char :=
  "0123456789abcdef".toList

theorem mem_alphabet_of_mem_hexDigits {count n : Nat} {c : Char}
    (inside : c ∈ hexDigits count n) : c ∈ alphabet := by
  induction count generalizing n with
  | zero => cases inside
  | succ count induction =>
      rcases List.mem_append.mp inside with leading | last
      · exact induction leading
      · have all : ∀ digit < 16, digit.digitChar ∈ alphabet := by decide
        rw [List.mem_singleton.mp last]
        exact all _ (Nat.mod_lt n (by decide))

theorem exists_groups_of_text (id : Uuid) :
    ∃ groups : List (List Char), groups.map List.length = [8, 4, 4, 4, 12] ∧
      (∀ group ∈ groups, ∀ c ∈ group, c ∈ alphabet) ∧
      id.text.toList = ['-'].intercalate groups := by
  refine ⟨[hexDigits 8 (id.bits.toNat / Nat.pow 16 24),
    hexDigits 4 (id.bits.toNat / Nat.pow 16 20), hexDigits 4 (id.bits.toNat / Nat.pow 16 16),
    hexDigits 4 (id.bits.toNat / Nat.pow 16 12), hexDigits 12 id.bits.toNat], ?_, ?_, ?_⟩
  · simp only [List.map_cons, List.map_nil, length_hexDigits]
  · intro group member c inside
    simp only [List.mem_cons, List.not_mem_nil, or_false] at member
    rcases member with rfl | rfl | rfl | rfl | rfl <;>
      exact mem_alphabet_of_mem_hexDigits inside
  · rw [text_toList]
    simp [List.intercalate, List.intersperse]

theorem mem_of_mem_marked {widths : List Nat} {digits : List Char} {c : Char}
    (inside : c ∈ marked widths digits) : c = '-' ∨ c ∈ digits := by
  induction widths generalizing digits with
  | nil => exact .inr inside
  | cons width widths induction =>
      rw [marked, List.mem_append, List.mem_cons] at inside
      rcases inside with front | hyphen | behind
      · exact .inr (List.mem_of_mem_take front)
      · exact .inl hyphen
      · exact (induction behind).imp_right List.mem_of_mem_drop

theorem ascii_of_mem_marked {widths : List Nat} {count n : Nat} {c : Char}
    (inside : c ∈ marked widths (hexDigits count n)) : c.toNat < 0x80 := by
  have all : ('-' :: alphabet).all (fun c => c.toNat < 0x80) = true := by decide
  have member : c ∈ '-' :: alphabet := by
    rcases mem_of_mem_marked inside with hyphen | digit
    · exact hyphen ▸ List.mem_cons_self
    · exact List.mem_cons_of_mem _ (mem_alphabet_of_mem_hexDigits digit)
  exact of_decide_eq_true (List.all_eq_true.mp all c member)

theorem precedes_text_of_lt {left right : Uuid} (smaller : left < right) :
    Text.precedes left.text right.text = true := by
  have numbers : left.bits.toNat < right.bits.toNat := smaller
  have bound : right.bits.toNat < Nat.pow 16 32 := right.bits.isLt
  have length : (hexDigits 32 left.bits.toNat).length = _ :=
    (length_hexDigits 32 _).trans (length_hexDigits 32 right.bits.toNat).symm
  rw [Text.precedes_iff, text, text, hyphenated_eq_marked, hyphenated_eq_marked]
  refine Text.bytes_lt_of_lt ?_ ?_ ?_
  · exact fun c inside => ascii_of_mem_marked inside
  · exact fun c inside => ascii_of_mem_marked inside
  · exact marked_lt _ length (hexDigits_lt 32 bound numbers)

theorem precedes_text_iff {left right : Uuid} :
    Text.precedes left.text right.text = true ↔ left < right := by
  refine ⟨?_, precedes_text_of_lt⟩
  intro before
  rcases lt_trichotomy left right with smaller | rfl | greater
  · exact smaller
  · exact absurd before (Text.precedes_asymm before)
  · exact absurd before (Text.precedes_asymm (precedes_text_of_lt greater))

/-! ## Random bits -/

/-- The places of the bits that every random identifier has alike: the two upper bits of
the variant and the four of the version. -/
def stampedPlaces : List Nat :=
  [62, 63, 76, 77, 78, 79]

theorem getLsbD_freeBits : ∀ i < 128, freeBits.getLsbD i = decide (i ∉ stampedPlaces) := by
  decide +kernel

theorem random_eq_iff_getLsbD {left right : BitVec 128} :
    random left = random right ↔
      ∀ i < 128, i ∉ stampedPlaces → left.getLsbD i = right.getLsbD i := by
  rw [random_eq_iff, BitVec.eq_of_getLsbD_eq_iff]
  refine forall₂_congr fun i inside => ?_
  rw [BitVec.getLsbD_and, BitVec.getLsbD_and, getLsbD_freeBits i inside]
  by_cases stamped : i ∈ stampedPlaces
  · simp [stamped]
  · simp [stamped]

end Uuid

namespace Store

/-- Users of one creation time are listed in the order of their printed identifiers. -/
theorem Keyed.listing_texts_increase {store : Store} (keyed : store.Keyed)
    (condition : User → Bool) :
    (store.listing condition).Pairwise fun earlier later =>
      earlier.createdAt = later.createdAt →
        Text.precedes earlier.id.text later.id.text = true := by
  refine (keyed.listing_places_lt condition).imp ?_
  intro earlier later before sameTime
  rcases User.place_lt_iff.mp before with older | ⟨_, smaller⟩
  · exact absurd sameTime older.ne
  · exact Uuid.precedes_text_of_lt smaller

/-- Random bits make one identifier exactly when they agree outside the six stamped bits.
An identifier is printed as five groups of digits, and its text is read back as it is.
The order that decides between users of one creation time is that of the bytes of the
texts, so that every listing shows such users with increasing texts. -/
theorem identifiers_and_their_texts :
    (∀ (source other : Source) (m n : Nat) (username email otherUsername otherEmail : String)
        (roles otherRoles : Option (List String)),
      (source.create m username email roles).id =
          (other.create n otherUsername otherEmail otherRoles).id ↔
        ∀ i < 128, i ∉ [62, 63, 76, 77, 78, 79] →
          (source.bits m).getLsbD i = (other.bits n).getLsbD i) ∧
      (∀ id : Uuid, Uuid.ofText? id.text = some id ∧
        ∃ groups : List (List Char), groups.map List.length = [8, 4, 4, 4, 12] ∧
          (∀ group ∈ groups, ∀ c ∈ group, c ∈ "0123456789abcdef".toList) ∧
          id.text.toList = ['-'].intercalate groups) ∧
      (∀ left right : Uuid,
        left.le right = true ↔ Text.bytes left.text ≤ Text.bytes right.text) ∧
      ∀ store : Store, store.Reachable → ∀ listed,
        (listed = store.all ∨ listed = store.admins ∨
          ∃ username, listed = store.findByUsername username) →
        listed.Pairwise fun earlier later =>
          earlier.createdAt = later.createdAt →
            Text.bytes earlier.id.text < Text.bytes later.id.text := by
  refine ⟨?_, ?_, ?_, ?_⟩
  · intro source other m n username email otherUsername otherEmail roles otherRoles
    exact Uuid.random_eq_iff_getLsbD
  · intro id
    exact ⟨Uuid.ofText?_text id, Uuid.exists_groups_of_text id⟩
  · intro left right
    have greater := @Uuid.precedes_text_iff right left
    rw [Text.precedes_iff] at greater
    rw [Uuid.le_eq_true_iff, ← not_lt, ← greater]
    rfl
  · intro store reachable listed listing
    have increase (condition : User → Bool) :=
      (reachable.keyed.listing_texts_increase condition).imp fun increase sameTime =>
        Text.precedes_iff.mp (increase sameTime)
    rcases listing with rfl | rfl | ⟨username, rfl⟩
    · exact increase fun _ => true
    · exact increase User.isAdmin
    · exact increase fun user => user.username = username

/-- Two users of one creation time, the one with the greater identifier stored first.  The
identifiers differ where a letter stands in one and a decimal digit in the other. -/
theorem identifiers_and_their_texts_of_twins :
    let ann : User := ⟨.random 0xa0, "ann", "ann@example.com", ⟨0, 0⟩, [], []⟩
    let bob : User := ⟨.random 0x9f, "bob", "bob@example.com", ⟨0, 0⟩, [], []⟩
    let store := (Store.empty.performAll [.insert ann, .insert bob]).1
    store.users = [ann, bob] ∧ store.all = [bob, ann] ∧
      Text.bytes bob.id.text < Text.bytes ann.id.text := by
  intro ann bob store
  have reachable : store.Reachable := (Reachable.withCapacity 0).performAll [.insert ann, .insert bob]
  have stored : store.users = [ann, bob] := rfl
  have listed : store.all = [bob, ann] := by
    refine User.eq_of_places_increasing (reachable.keyed.listing_places_lt _) ?_ ?_
    · rw [List.pairwise_pair, User.place_lt_iff]
      exact .inr ⟨rfl, (by decide : bob.id.bits.toNat < ann.id.bits.toNat)⟩
    · intro user
      rw [mem_all_iff, stored]
      exact (List.Perm.swap bob ann []).mem_iff
  have increase := identifiers_and_their_texts.2.2.2 store reachable store.all (.inl rfl)
  rw [listed, List.pairwise_pair] at increase
  exact ⟨stored, listed, increase rfl⟩

end Store

end UserRegistry
