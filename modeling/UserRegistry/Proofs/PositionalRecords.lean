import UserRegistry.Proofs.ConfigReading
import UserRegistry.Proofs.IndependentFields
import UserRegistry.Proofs.SeedNotations

/-!
# Records as arrays

A record may be written as an array of its fields in the order of their declaration.  It
is read as the table that gives the items to these fields would be: fields beyond the end
of the array have their defaults, and items beyond the last field are not looked at.
-/

namespace UserRegistry

namespace Field

variable {Record : Type} {record changed : Record} {fields : List (Field Record)}

theorem readItems_take (fields : List (Field Record)) (record : Record) (items : List Value) :
    readItems record fields (items.take fields.length) = readItems record fields items := by
  induction fields generalizing record items with
  | nil => simp [readItems]
  | cons field fields induction =>
      cases items with
      | nil => rfl
      | cons item items =>
          rw [List.length_cons, List.take_succ_cons, readItems, readItems]
          simp only [induction]

/-- A field whose place is beyond the end of an array is not set. -/
theorem Owns.part_of_short {Part : Type} {name : String} {part : Record → Part}
    {readPart : Value → Except ReadError Part} (owns : Owns fields name part readPart)
    (distinct : (fields.map Field.name).Nodup) {place : Nat}
    (placed : (fields.map Field.name)[place]? = some name) {items : List Value}
    (short : items.length ≤ place) (result : readItems record fields items = .ok changed) :
    part changed = part record := by
  rw [readItems_eq_readEntries fields distinct] at result
  have set := owns.part_of_readEntries result
  rw [lastValue?_eq_none_iff.mpr (not_mem_keys_zip distinct placed short)] at set
  exact set

end Field

namespace Logging

theorem fields_own_level :
    Field.Owns fields "level" Logging.level (Value.readString .toml) := by
  refine .of_put [] [_, _] (fun _ _ _ read => read) ?_
  exact ⟨Field.spares_of_put (by decide) _ fun _ _ => rfl,
    Field.spares_of_put (by decide) _ fun _ _ => rfl⟩

theorem fields_own_format :
    Field.Owns fields "format" Logging.format (Value.readString .toml) := by
  refine .of_put [_] [_] (fun _ _ _ read => read) ?_
  exact ⟨Field.spares_of_put (by decide) _ fun _ _ => rfl,
    Field.spares_of_put (by decide) _ fun _ _ => rfl⟩

theorem fields_own_console :
    Field.Owns fields "console" Logging.console (Value.readBoolean .toml) := by
  refine .of_put [_, _] [] (fun _ _ _ read => read) ?_
  exact ⟨Field.spares_of_put (by decide) _ fun _ _ => rfl,
    Field.spares_of_put (by decide) _ fun _ _ => rfl⟩

end Logging

namespace Seed

variable {format : Format} {seed : Seed}

theorem fields_own_roles (format : Format) :
    Field.Owns (fields format) "roles" Draft.roles (readRoles format) := by
  refine .of_put [_, _] [_] (fun _ _ _ read => read) ?_
  exact ⟨Field.spares_of_put (by decide) _ fun _ _ => rfl,
    Field.spares_of_put (by decide) _ fun _ _ => rfl,
    Field.spares_of_put (by decide) _ fun _ _ => rfl⟩

theorem defaults_of_readArray {items : List Value}
    (result : readArray format items = .ok seed) :
    (items.length ≤ 2 → seed.roles = none) ∧ (items.length ≤ 3 → seed.metadata = []) := by
  have asArray : read format (.array items) = .ok seed := result
  obtain ⟨draft, drafted, finished⟩ := draft_of_read asArray
  rw [Field.entriesOf, ← Field.readItems_eq_readEntries _ (fields_distinct format)] at drafted
  obtain rfl := Draft.finish_eq_ok_iff.mp finished
  constructor
  · intro short
    exact (fields_own_roles format).part_of_short (fields_distinct format) rfl short drafted
  · intro short
    exact (fields_own_metadata format).part_of_short (fields_distinct format) rfl short drafted

/-- Only JSON refuses a seed for surplus items. -/
theorem readArray_take (items : List Value) :
    readArray .toml (items.take 4) = readArray .toml items := by
  by_cases short : items.length ≤ 4
  · rw [List.take_of_length_le short]
  · have all : (items.take 4).length = 4 := by
      rw [List.length_take]
      omega
    have enough : ¬ items.length < 2 := by omega
    have sameDraft : Field.readItems {} (fields .toml) (items.take 4) =
        Field.readItems {} (fields .toml) items :=
      Field.readItems_take (fields .toml) {} items
    rw [readArray, readArray, sameDraft, all]
    simp [enough]

end Seed

/-! ## JSON -/

theorem Json.canonicalMembers_eq_map (members : Members) :
    canonicalMembers members = members.map fun member => (member.1, member.2.canonical) := by
  induction members with
  | nil => rfl
  | cons member members induction =>
      exact congrArg ((member.1, member.2.canonical) :: ·) induction

namespace Seed

theorem concur_ofJson_object {members : Json.Members}
    (distinct : (members.map Prod.fst).Nodup) :
    Concur (ofJson (.object members))
      (readTable .json (members.map fun member => (member.1, member.2.canonical.toValue))) := by
  have sameKeys : (Json.canonicalMembers members).map Prod.fst = members.map Prod.fst := by
    rw [Json.canonicalMembers_eq_map, List.map_map]
    rfl
  have entries : (Json.toEntries (Json.Members.ofEntries (Json.canonicalMembers members))).Perm
      (members.map fun member => (member.1, member.2.canonical.toValue)) := by
    have same := Json.Members.ofEntries_perm (sameKeys ▸ distinct)
    have listed : Json.toEntries (Json.canonicalMembers members) =
        members.map fun member => (member.1, member.2.canonical.toValue) := by
      rw [Json.toEntries_eq_map, Json.canonicalMembers_eq_map, List.map_map]
      rfl
    rw [← listed, Json.toEntries_eq_map, Json.toEntries_eq_map]
    exact same.map _
  have keys := (entries.map Prod.fst).nodup_iff.mpr (by rwa [List.map_map])
  have drafts := (fields_independent .json).concur_of_perm entries keys {}
  apply drafts.bind
  intro draft
  exact .refl _

/-- An array is a seed exactly when the object that names its items is. -/
theorem concur_ofJson_array {items : List Json} (enough : 2 ≤ items.length)
    (fits : items.length ≤ 4) :
    Concur (ofJson (.array items))
      (ofJson (.object (["username", "email", "roles", "metadata"].zip items))) := by
  have distinct : ((["username", "email", "roles", "metadata"].zip items).map
      Prod.fst).Nodup := by
    rw [Field.keys_zip]
    exact List.Nodup.sublist (List.take_sublist _ _) (by decide)
  have values : Json.toValues (Json.canonicalItems items) =
      items.map fun item => item.canonical.toValue := by
    rw [Json.toValues_eq_map, Json.canonicalItems_eq_map, List.map_map]
    rfl
  have array : ofJson (.array items) = readTable .json
      ((["username", "email", "roles", "metadata"].zip items).map
        fun member => (member.1, member.2.canonical.toValue)) := by
    change readArray .json (Json.toValues (Json.canonicalItems items)) = _
    rw [values, readArray_eq_readTable (by simpa using enough) (by simpa using fits),
      List.zip_map_right]
    rfl
  rw [array]
  have object := concur_ofJson_object distinct
  exact fun seed => (object seed).symm

end Seed

namespace Config

/-- Records that are written as arrays are read as the tables that give the items to the
fields in the order of their declaration, with the same outcome, be it an error.  Fields
beyond the end of an array have their defaults, and items beyond the last field do not
matter.  The same seeds are read from JSON arrays as from objects. -/
theorem arrays_are_read_as_tables :
    (∀ items, Logging.read (.array items) =
        Logging.read (.table (["level", "format", "console"].zip items))) ∧
      (∀ items, Memory.read (.array items) =
        Memory.read (.table (["user_capacity"].zip items))) ∧
      (∀ items, 2 ≤ items.length → Seed.read .toml (.array items) =
        Seed.read .toml (.table (["username", "email", "roles", "metadata"].zip items))) ∧
      (∀ items logging, Logging.read (.array items) = .ok logging →
        (items = [] → logging.level = "info") ∧
          (items.length ≤ 1 → logging.format = "json") ∧
          (items.length ≤ 2 → logging.console = false)) ∧
      Memory.read (.array []) = .ok { userCapacity := 1024 } ∧
      (∀ items seed, Seed.read .toml (.array items) = .ok seed →
        (items.length ≤ 2 → seed.roles = none) ∧ (items.length ≤ 3 → seed.metadata = [])) ∧
      (∀ items, Logging.read (.array (items.take 3)) = Logging.read (.array items)) ∧
      (∀ items, Memory.read (.array (items.take 1)) = Memory.read (.array items)) ∧
      (∀ items, Seed.read .toml (.array (items.take 4)) = Seed.read .toml (.array items)) ∧
      ∀ items seed, 2 ≤ items.length → items.length ≤ 4 →
        (Seed.ofJson (.array items) = .ok seed ↔
          Seed.ofJson (.object (["username", "email", "roles", "metadata"].zip items)) =
            .ok seed) := by
  have logging : (Logging.fields.map Field.name).Nodup := by simp [Logging.fields]
  have memory : (Memory.fields.map Field.name).Nodup := by simp [Memory.fields]
  refine ⟨?_, ?_, ?_, ?_, ?_, ?_, ?_, ?_, ?_, ?_⟩
  · intro items
    exact Field.readItems_eq_readEntries Logging.fields logging {} items
  · intro items
    exact Field.readItems_eq_readEntries Memory.fields memory {} items
  · intro items enough
    exact Seed.readArray_eq_readTable enough (by simp)
  · intro items found result
    refine ⟨?_, ?_, ?_⟩
    · intro empty
      have short : items.length ≤ 0 := by rw [empty, List.length_nil]
      exact Logging.fields_own_level.part_of_short logging rfl short result
    · intro short
      exact Logging.fields_own_format.part_of_short logging rfl short result
    · intro short
      exact Logging.fields_own_console.part_of_short logging rfl short result
  · rfl
  · intro items seed result
    exact Seed.defaults_of_readArray result
  · intro items
    exact Field.readItems_take Logging.fields {} items
  · intro items
    exact Field.readItems_take Memory.fields {} items
  · intro items
    exact Seed.readArray_take items
  · intro items seed enough fits
    exact Seed.concur_ofJson_array enough fits seed

/-- The roles are given and the metadata is not. -/
def threeItems : List Value :=
  [.string "u", .string "e", .array [.string "admin"]]

theorem arrays_are_read_of_few_items :
    2 ≤ threeItems.length ∧
      Seed.read .toml (.table
        [ ("username", .string "u"),
          ("email", .string "e"),
          ("roles", .array [.string "admin"]) ]) = .ok ⟨"u", "e", some ["admin"], []⟩ ∧
      (∃ logging, Logging.read (.array [.string "warn"]) = .ok logging ∧
        logging.format = "json" ∧ logging.console = false) ∧
      Seed.ofJson (.object [("username", .string "u"), ("email", .string "e")]) =
        .ok ⟨"u", "e", none, []⟩ := by
  obtain ⟨_, _, asTable, defaults, _, _, _, _, _, asObject⟩ := arrays_are_read_as_tables
  have enough : 2 ≤ threeItems.length := by decide
  have warn := defaults [.string "warn"] { level := "warn" } rfl
  refine ⟨enough, ?_, ?_, ?_⟩
  · have listed := asTable threeItems enough
    exact listed.symm.trans rfl
  · exact ⟨{ level := "warn" }, rfl, warn.2.1 (by decide), warn.2.2 (by decide)⟩
  · exact (asObject [.string "u", .string "e"] _ (by decide) (by decide)).mp rfl

end Config

end UserRegistry
