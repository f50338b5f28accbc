import UserRegistry.Proofs.DatesInMetadata
import UserRegistry.Proofs.SeedNotations

/-!
# Metadata of JSON seeds

A JSON seed that is in order but for its metadata is accepted exactly when the metadata
has no `null` and no integer too large inside it.  A user made from it has the metadata
as it was written, and a refusal tells the first part that is at fault.
-/

namespace UserRegistry

namespace Json

/-! ## Objects without the marker -/

mutual

theorem unmarked_of_names (v : Json) (unmarked : datetimeMarker ∉ v.names) :
    v.Everywhere Unmarked := by
  cases v with
  | array items => exact ⟨trivial, unmarked_of_itemNames items unmarked⟩
  | object members =>
      refine ⟨?_, unmarked_of_memberNames members unmarked⟩
      intro member first marked
      have inside := List.mem_of_mem_head? first
      exact unmarked (mem_memberNames_iff.mpr ⟨member, inside, .inl marked.symm⟩)
  | null => trivial
  | boolean => trivial
  | integer => trivial
  | float => trivial
  | string => trivial

theorem unmarked_of_itemNames (items : List Json)
    (unmarked : datetimeMarker ∉ itemNames items) : EverywhereItems Unmarked items := by
  cases items with
  | nil => trivial
  | cons item items =>
      rw [itemNames, List.mem_append, not_or] at unmarked
      exact ⟨unmarked_of_names item unmarked.1, unmarked_of_itemNames items unmarked.2⟩

theorem unmarked_of_memberNames (members : List (String × Json))
    (unmarked : datetimeMarker ∉ memberNames members) :
    EverywhereMembers Unmarked members := by
  cases members with
  | nil => trivial
  | cons member members =>
      obtain ⟨key, v⟩ := member
      simp only [memberNames, List.cons_append, List.mem_cons, List.mem_append,
        not_or] at unmarked
      exact ⟨unmarked_of_names v unmarked.2.1, unmarked_of_memberNames members unmarked.2.2⟩

end

theorem refusal?_eq_none_iff {v : Json} :
    v.refusal? = none ↔ v ≠ .null ∧ ∀ n, v = .integer n → n < Numeral.signedBound := by
  cases v with
  | integer value => simp [refusal?]
  | _ => simp [refusal?]

/-- What the roles of a seed may be: strings, or none. -/
def AreRoles (v : Json) : Prop :=
  v = .null ∨ ∃ roles : List String, v = .array (roles.map .string)

end Json

namespace Seed

/-- A JSON value that is a seed with this username and email, as far as one can tell
without its metadata. -/
inductive Describes (username email : String) (metadata : Json.Members) : Json → Prop where
  | table {members : Json.Members} :
      members.get? "username" = some (.string username) →
      members.get? "email" = some (.string email) →
      (∀ roles, members.get? "roles" = some roles → roles.AreRoles) →
      members.get? "metadata" = some (.object metadata) →
      Describes username email metadata (.object members)
  | array {roles : Json} : roles.AreRoles →
      Describes username email metadata
        (.array [.string username, .string email, roles, .object metadata])

/-! ## The one field in doubt -/

theorem readRoles_of_areRoles {v : Json} (roles : v.AreRoles) (format : Format) :
    ∃ found, readRoles format v.toValue = .ok found := by
  rcases roles with rfl | ⟨texts, rfl⟩
  · exact ⟨none, rfl⟩
  · exact ⟨some texts, readRoles_strings format texts⟩

variable {username email : String} {metadata : Json.Members}

section Table

variable {members : Json.Members} (distinct : (members.map Prod.fst).Nodup)
  (describes : Describes username email metadata (.object members))

include distinct describes

theorem metadata_of_misread {entry : String × Value}
    (inside : entry ∈ Json.toEntries members) {cause : ReadError}
    (misread : Field.MisreadsFor (fields .json) cause entry) :
    Metadata.read .json (Json.object metadata).toValue = .error cause := by
  obtain ⟨field, found, refused⟩ := misread
  have named : field.name = entry.1 := by simpa using List.find?_some found
  rw [Json.toEntries_eq_map] at inside
  obtain ⟨⟨key, v⟩, present, rfl⟩ := List.mem_map.mp inside
  have offered : members.get? key = some v :=
    (Associations.lookup_eq_some_iff_mem distinct).mpr present
  cases describes with
  | table byName byAddress byRoles byMetadata =>
      have listed := List.mem_of_find?_eq_some found
      simp only [fields, List.mem_cons, List.not_mem_nil, or_false] at listed
      rcases listed with rfl | rfl | rfl | rfl
      · cases named
        cases byName.symm.trans offered
        contradiction
      · cases named
        cases byAddress.symm.trans offered
        contradiction
      · cases named
        obtain ⟨found, read⟩ := readRoles_of_areRoles (byRoles v offered) .json
        have failed := bind_ok_eq_error_iff.mp refused
        rw [read] at failed
        contradiction
      · cases named
        cases byMetadata.symm.trans offered
        exact bind_ok_eq_error_iff.mp refused

theorem metadata_of_readTable :
    (readTable .json (Json.toEntries members)).map Seed.metadata =
      Metadata.read .json (Json.object metadata).toValue := by
  have keys : ((Json.toEntries members).map Prod.fst).Nodup := by
    rwa [Json.map_fst_toEntries]
  have bound {name : String} {v : Json} (offered : members.get? name = some v) :
      (name, v.toValue) ∈ Json.toEntries members := by
    rw [Json.toEntries_eq_map]
    exact List.mem_map_of_mem (Associations.mem_of_lookup offered)
  cases outcome : readTable .json (Json.toEntries members) with
  | ok seed =>
      cases describes with
      | table _ _ _ byMetadata =>
          have asTable : read .json (.table (Json.toEntries members)) = .ok seed := outcome
          have held := metadata_of_read asTable
          rw [Field.entriesOf, (Field.lastValue?_eq_some_iff_mem keys).mpr (bound byMetadata)]
            at held
          exact held.symm
  | error cause =>
      rcases bind_eq_error_iff.mp outcome with failed | ⟨draft, drafted, unfinished⟩
      · obtain ⟨before, entry, after, split, _, misread⟩ :=
          (Field.readEntries_eq_error_iff _).mp failed
        refine (metadata_of_misread distinct describes ?_ misread).symm
        rw [split]
        exact List.mem_append_right before List.mem_cons_self
      · have missing := draft.finish_fails_iff.mp ⟨cause, unfinished⟩
        rw [(fields_own_username .json).eq_none_iff rfl drafted,
          (fields_own_email .json).eq_none_iff rfl drafted] at missing
        cases describes with
        | table byName byAddress _ _ =>
            rcases missing with nameless | unaddressed
            · exact absurd (List.mem_map_of_mem (bound byName)) nameless
            · exact absurd (List.mem_map_of_mem (bound byAddress)) unaddressed

end Table

/-- An array of four is read as the object that gives its items to the fields. -/
theorem read_array_of_four (first second third fourth : Json) :
    read .json (Json.array [first, second, third, fourth]).toValue =
      read .json (Json.object [("username", first), ("email", second), ("roles", third),
        ("metadata", fourth)]).toValue := by
  exact readArray_eq_readTable (by simp [Json.toValues]) (by simp [Json.toValues])

theorem metadata_of_read_of_describes {value : Json}
    (distinct : ∀ members, value = .object members → (members.map Prod.fst).Nodup)
    (describes : Describes username email metadata value) :
    (read .json value.toValue).map Seed.metadata =
      Metadata.read .json (Json.object metadata).toValue := by
  cases describes with
  | @table members byName byAddress byRoles byMetadata =>
      exact metadata_of_readTable (distinct members rfl)
        (.table byName byAddress byRoles byMetadata)
  | @array roles areRoles =>
      rw [read_array_of_four]
      refine metadata_of_readTable (by simp) (.table rfl rfl ?_ rfl)
      intro offered same
      cases same
      exact areRoles

theorem sorted_metadata {value : Json} (sorted : value.Everywhere Json.Sorted)
    (describes : Describes username email metadata value) :
    (Json.object metadata).Everywhere Json.Sorted := by
  cases describes with
  | table _ _ _ byMetadata =>
      exact Json.everywhereMembers_iff.mp sorted.2 _ (Associations.mem_of_lookup byMetadata)
  | array _ => exact sorted.2.2.2.2.1

/-- Only the metadata decides, and it is read as it is. -/
theorem metadata_of_ofJson {value : Json}
    (describes : Describes username email metadata value.canonical)
    (unmarked : datetimeMarker ∉ Json.memberNames metadata) :
    (ofJson value).map Seed.metadata =
      ((Json.object metadata).parts.findSome? Json.refusal?).elim (.ok metadata) .error := by
  have sorted := Json.sorted_canonical value
  have distinct (members : Json.Members) (object : value.canonical = .object members) :
      (members.map Prod.fst).Nodup := by
    rw [object] at sorted
    exact Json.Members.Ordered.distinct sorted.1
  have metadataSorted := sorted_metadata sorted describes
  rw [← Metadata.read_object .json metadataSorted (Json.unmarked_of_memberNames _ unmarked)]
  exact metadata_of_read_of_describes distinct describes

/-- A JSON seed that is in order but for its metadata is accepted exactly when no part
of the metadata is `null` or an integer too large for 64 bits with sign.  Every user made
from it has just that metadata.  If it is refused, then for the first such part, where
the members of each object are looked at in the order of their keys. -/
theorem outcome_of_json_metadata {value : Json}
    (describes : Describes username email metadata value.canonical)
    (unmarked : datetimeMarker ∉ Json.memberNames metadata) :
    (Json.object metadata).Everywhere Json.Sorted ∧
    ((∃ seed, ofJson value = .ok seed) ↔
      ∀ part ∈ (Json.object metadata).parts,
        part ≠ .null ∧ ∀ n, part = .integer n → n < Numeral.signedBound) ∧
    (∀ seed, ofJson value = .ok seed → ∀ (source : Source) (n : Nat),
      (source.sow n seed).metadata = metadata) ∧
    ∀ cause, ofJson value = .error cause →
      ∃ before part after, (Json.object metadata).parts = before ++ part :: after ∧
        (∀ earlier ∈ before, earlier.refusal? = none) ∧ part.refusal? = some cause := by
  have metadataSorted := sorted_metadata (Json.sorted_canonical value) describes
  have outcome := metadata_of_ofJson describes unmarked
  have faultless : (∀ part ∈ (Json.object metadata).parts,
        part ≠ .null ∧ ∀ n, part = .integer n → n < Numeral.signedBound) ↔
      (Json.object metadata).parts.findSome? Json.refusal? = none := by
    simp only [List.findSome?_eq_none_iff, Json.refusal?_eq_none_iff]
  refine ⟨metadataSorted, ?_⟩
  rw [faultless]
  cases refused : (Json.object metadata).parts.findSome? Json.refusal? with
  | none =>
      rw [refused] at outcome
      obtain ⟨seed, accepted, same⟩ := map_eq_ok_iff.mp outcome
      rw [accepted]
      refine ⟨by simp, ?_, by simp⟩
      intro accepted equality source n
      cases equality
      rw [Source.sow_eq, Seed.user, same]
      exact Json.Members.ofEntries_of_ordered metadataSorted.1
  | some cause =>
      rw [refused] at outcome
      cases result : ofJson value with
      | ok seed =>
          rw [result] at outcome
          contradiction
      | error failure =>
          rw [result] at outcome
          cases outcome
          refine ⟨by simp, by simp, ?_⟩
          intro same equality
          cases equality
          obtain ⟨before, part, after, split, own, earlier⟩ :=
            List.findSome?_eq_some_iff.mp refused
          exact ⟨before, part, after, split, earlier, own⟩

/-- Metadata with a float, an integer inside an object inside an array, and a flag. -/
def limitedMetadata (limit : Int) (last : Json) : Json.Members :=
  [("limits", .array [.float oneHalf, .object [("most", .integer limit)]]), ("open", last)]

/-- A seed that has it, with all members out of order. -/
def limited (limit : Int) (last : Json) : Json :=
  .object [("username", .string "u"), ("roles", .null),
    ("metadata", .object (limitedMetadata limit last).reverse), ("email", .string "e")]

/-- The largest integer is kept, the next one is refused, and so is it in front of a
`null` that the text writes first. -/
theorem outcome_of_limits :
    (∃ seed, ofJson (limited 0x7fffffffffffffff (.boolean true)) = .ok seed ∧
      ∀ (source : Source) (n : Nat), (source.sow n seed).metadata =
        limitedMetadata 0x7fffffffffffffff (.boolean true)) ∧
    ∃ before part after,
      (Json.object (limitedMetadata 0x8000000000000000 .null)).parts =
        before ++ part :: after ∧
      (∀ earlier ∈ before, earlier.refusal? = none) ∧
      part.refusal? = some .integerTooLarge := by
  have describes (limit : Int) (last : Json) (scalar : last.canonical = last) :
      Describes "u" "e" (limitedMetadata limit last) (limited limit last).canonical := by
    have canonical : (limited limit last).canonical =
        .object [("email", .string "e"),
          ("metadata", .object (limitedMetadata limit last.canonical)), ("roles", .null),
          ("username", .string "u")] := rfl
    rw [canonical, scalar]
    refine .table rfl rfl ?_ rfl
    intro roles same
    cases same
    exact .inl rfl
  constructor
  · have unmarked : datetimeMarker ∉
        Json.memberNames (limitedMetadata 0x7fffffffffffffff (.boolean true)) := by decide
    obtain ⟨_, accepted, metadata, _⟩ := outcome_of_json_metadata (describes _ _ rfl) unmarked
    obtain ⟨seed, read⟩ := accepted.mpr (by
      simp [limitedMetadata, Json.parts, Json.memberParts, Json.itemParts])
    exact ⟨seed, read, metadata seed read⟩
  · have unmarked : datetimeMarker ∉
        Json.memberNames (limitedMetadata 0x8000000000000000 .null) := by decide
    obtain ⟨_, _, _, refused⟩ := outcome_of_json_metadata (describes _ _ rfl) unmarked
    exact refused _ rfl

end Seed

end UserRegistry
