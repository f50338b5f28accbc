import UserRegistry.Proofs.JsonText
import UserRegistry.Proofs.SeedReading

/-!
# JSON as metadata

A JSON value is read as metadata without loss: it comes out with its members in key
order, and it is refused for the first part of it, in the order of its text, that
metadata has no room for.
-/

namespace UserRegistry

namespace Json

/-! ## Parts of a value -/

mutual

/-- A value and all values inside it, each in front of what is inside it. -/
def parts : Json → List Json
  | .array items => .array items :: itemParts items
  | .object members => .object members :: memberParts members
  | scalar => [scalar]

def itemParts : List Json → List Json
  | [] => []
  | item :: items => item.parts ++ itemParts items

def memberParts : List (String × Json) → List Json
  | [] => []
  | (_, value) :: members => value.parts ++ memberParts members

end

variable {condition : Json → Prop}

mutual

theorem everywhere_iff_parts (v : Json) :
    v.Everywhere condition ↔ ∀ part ∈ v.parts, condition part := by
  cases v with
  | array items =>
      rw [Everywhere, everywhereItems_iff_parts items, parts, List.forall_mem_cons]
  | object members =>
      rw [Everywhere, everywhereMembers_iff_parts members, parts, List.forall_mem_cons]
  | null => simp [Everywhere, parts]
  | boolean => simp [Everywhere, parts]
  | integer => simp [Everywhere, parts]
  | float => simp [Everywhere, parts]
  | string => simp [Everywhere, parts]

theorem everywhereItems_iff_parts (items : List Json) :
    EverywhereItems condition items ↔ ∀ part ∈ itemParts items, condition part := by
  cases items with
  | nil => simp [EverywhereItems, itemParts]
  | cons item items =>
      rw [EverywhereItems, everywhere_iff_parts item, everywhereItems_iff_parts items,
        itemParts, List.forall_mem_append]

theorem everywhereMembers_iff_parts (members : List (String × Json)) :
    EverywhereMembers condition members ↔
      ∀ part ∈ memberParts members, condition part := by
  cases members with
  | nil => simp [EverywhereMembers, memberParts]
  | cons member members =>
      rw [EverywhereMembers, everywhere_iff_parts member.2,
        everywhereMembers_iff_parts members, memberParts, List.forall_mem_append]

end

/-! ## Values in key order -/

/-- The members of an object are in key order. -/
def Sorted : Json → Prop
  | .object members => Members.Ordered members
  | _ => True

theorem everywhereMembers_iff {members : Members} :
    EverywhereMembers condition members ↔
      ∀ member ∈ members, member.2.Everywhere condition := by
  induction members with
  | nil => simp [EverywhereMembers]
  | cons member members induction =>
      rw [EverywhereMembers, induction, List.forall_mem_cons]

mutual

theorem sorted_canonical (v : Json) : v.canonical.Everywhere Sorted := by
  cases v with
  | array items => exact ⟨trivial, sorted_canonicalItems items⟩
  | object members =>
      have each := everywhereMembers_iff.mp (sorted_canonicalMembers members)
      refine ⟨Members.ordered_ofEntries _, everywhereMembers_iff.mpr ?_⟩
      intro member bound
      exact each member (Members.mem_of_mem_ofEntries bound)
  | null => trivial
  | boolean => trivial
  | integer => trivial
  | float => trivial
  | string => trivial

theorem sorted_canonicalItems (items : List Json) :
    EverywhereItems Sorted (canonicalItems items) := by
  cases items with
  | nil => trivial
  | cons item items => exact ⟨sorted_canonical item, sorted_canonicalItems items⟩

theorem sorted_canonicalMembers (members : List (String × Json)) :
    EverywhereMembers Sorted (canonicalMembers members) := by
  cases members with
  | nil => trivial
  | cons member members =>
      exact ⟨sorted_canonical member.2, sorted_canonicalMembers members⟩

end

mutual

theorem canonical_of_sorted (v : Json) (sorted : v.Everywhere Sorted) :
    v.canonical = v := by
  cases v with
  | array items =>
      exact congrArg Json.array (canonicalItems_of_sorted items sorted.2)
  | object members =>
      rw [canonical, canonicalMembers_of_sorted members sorted.2,
        Members.ofEntries_of_ordered sorted.1]
  | null => rfl
  | boolean => rfl
  | integer => rfl
  | float => rfl
  | string => rfl

theorem canonicalItems_of_sorted (items : List Json)
    (sorted : EverywhereItems Sorted items) : canonicalItems items = items := by
  cases items with
  | nil => rfl
  | cons item items =>
      rw [canonicalItems, canonical_of_sorted item sorted.1,
        canonicalItems_of_sorted items sorted.2]

theorem canonicalMembers_of_sorted (members : List (String × Json))
    (sorted : EverywhereMembers Sorted members) : canonicalMembers members = members := by
  cases members with
  | nil => rfl
  | cons member members =>
      obtain ⟨key, v⟩ := member
      rw [canonicalMembers, canonical_of_sorted v sorted.1,
        canonicalMembers_of_sorted members sorted.2]

end

/-! ## Values that are refused -/

/-- The first key of an object is not the date-time marker. -/
def Unmarked : Json → Prop
  | .object members => ∀ member ∈ members.head?, member.1 ≠ datetimeMarker
  | _ => True

/-- Why metadata refuses a value, whatever is inside it: there is no `null`, and integers
have 64 bits with sign. -/
def refusal? : Json → Option ReadError
  | .null => some (.wrongType .null .anyValue)
  | .integer value =>
    if value < Numeral.signedBound then none else some .integerTooLarge
  | _ => none

end Json

namespace Metadata

variable {format : Format}

theorem isMarked_toEntries {members : Json.Members}
    (unmarked : ∀ member ∈ members.head?, member.1 ≠ datetimeMarker) :
    isMarked (Json.toEntries members) = false := by
  cases members with
  | nil => rfl
  | cons member members => exact beq_eq_false_iff_ne.mpr (unmarked member rfl)

mutual

/-- A value is read in its canonical form, or refused for its first part that is. -/
theorem readValue_toValue (v : Json) (unmarked : v.Everywhere Json.Unmarked) :
    readValue format v.toValue =
      (v.parts.findSome? Json.refusal?).elim (.ok v.canonical) .error := by
  cases v with
  | integer value =>
      simp only [Json.toValue, readValue, Json.parts, List.findSome?_singleton,
        Json.refusal?]
      split <;> rfl
  | array items =>
      rw [Json.toValue, readValue, readItems_toValues items unmarked.2, Json.parts,
        List.findSome?_cons]
      cases (Json.itemParts items).findSome? Json.refusal? <;> rfl
  | object members =>
      rw [Json.toValue, readValue_table (isMarked_toEntries unmarked.1),
        readEntries_toEntries members unmarked.2, Json.parts, List.findSome?_cons]
      cases (Json.memberParts members).findSome? Json.refusal? <;> rfl
  | null => rfl
  | boolean => rfl
  | float => rfl
  | string => rfl

theorem readItems_toValues (items : List Json)
    (unmarked : Json.EverywhereItems Json.Unmarked items) :
    readItems format (Json.toValues items) =
      ((Json.itemParts items).findSome? Json.refusal?).elim
        (.ok (Json.canonicalItems items)) .error := by
  cases items with
  | nil => rfl
  | cons item items =>
      rw [Json.toValues, readItems, readValue_toValue item unmarked.1,
        readItems_toValues items unmarked.2, Json.itemParts, List.findSome?_append]
      cases item.parts.findSome? Json.refusal? with
      | some cause => rfl
      | none => cases (Json.itemParts items).findSome? Json.refusal? <;> rfl

theorem readEntries_toEntries (members : Json.Members)
    (unmarked : Json.EverywhereMembers Json.Unmarked members) :
    readEntries format (Json.toEntries members) =
      ((Json.memberParts members).findSome? Json.refusal?).elim
        (.ok (Json.canonicalMembers members)) .error := by
  cases members with
  | nil => rfl
  | cons member members =>
      obtain ⟨key, v⟩ := member
      rw [Json.toEntries, readEntries, readValue_toValue v unmarked.1,
        readEntries_toEntries members unmarked.2, Json.memberParts, List.findSome?_append]
      cases v.parts.findSome? Json.refusal? with
      | some cause => rfl
      | none => cases (Json.memberParts members).findSome? Json.refusal? <;> rfl

end

/-- Metadata in key order comes out as it is, unless a part of it is refused. -/
theorem read_object (format : Format) {members : Json.Members}
    (sorted : (Json.object members).Everywhere Json.Sorted)
    (unmarked : Json.EverywhereMembers Json.Unmarked members) :
    read format (Json.object members).toValue =
      ((Json.object members).parts.findSome? Json.refusal?).elim (.ok members) .error := by
  rw [Json.toValue, read, readEntries_toEntries members unmarked,
    Json.canonicalMembers_of_sorted members sorted.2, Json.parts, List.findSome?_cons]
  cases (Json.memberParts members).findSome? Json.refusal? with
  | some cause => rfl
  | none => exact congrArg Except.ok (Json.Members.ofEntries_of_ordered sorted.1)

end Metadata

end UserRegistry
