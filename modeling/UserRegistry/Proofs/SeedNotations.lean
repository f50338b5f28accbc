import UserRegistry.Proofs.TomlValues

/-!
# Seeds in both notations

One tree of values reads as the same seed whether it was written in JSON or in TOML, or
is refused for the same cause.  The messages agree as well, with one exception: JSON
writes very large and very small floats with an exponent and TOML never does, so that a
message which names such a float shows it in two ways.
-/

namespace UserRegistry

/-- The same cause, with a float shown as another notation writes it. -/
def ReadError.inFormat (format : Format) : ReadError → ReadError
  | .wrongType (.float value _) expected => .wrongType (.float value format) expected
  | other => other

/-- Whether the message of a cause shows a float with an exponent. -/
def ReadError.showsExponent : ReadError → Bool
  | .wrongType (.float (.finite number) .json) _ =>
      !Json.floatLayout.positional number.shortest.point
  | _ => false

theorem Binary64.shown_toml {value : Binary64}
    (positional : ∀ number, value = .finite number →
      Json.floatLayout.positional number.shortest.point = true) :
    value.shown .toml = value.shown .json := by
  cases value with
  | nan => rfl
  | infinite negative => cases negative <;> rfl
  | finite number =>
      have both : Json.floatLayout.positional number.shortest.point =
          Layout.plain.positional number.shortest.point := positional number rfl
      simp only [shown, Finite64.written, both]
      rfl

/-- The message of a cause depends on the notation only through a float that JSON writes
with an exponent. -/
theorem ReadError.message_inFormat {cause : ReadError}
    (positional : cause.showsExponent = false) :
    (cause.inFormat .toml).message = cause.message := by
  cases cause with
  | wrongType found expected =>
      cases found with
      | float value format =>
          cases format with
          | toml => rfl
          | json =>
              have same : value.shown .toml = value.shown .json := by
                refine Binary64.shown_toml fun number finite => ?_
                rw [finite] at positional
                simpa [showsExponent] using positional
              simp only [inFormat, message, Found.phrase, same]
      | _ => rfl
  | _ => rfl

namespace Value

variable (value : Value)

theorem readString_toml :
    value.readString .toml = (value.readString .json).mapError (.inFormat .toml) := by
  cases value <;> rfl

theorem readSequence_toml :
    value.readSequence .toml = (value.readSequence .json).mapError (.inFormat .toml) := by
  cases value <;> rfl

end Value

/-! ## Metadata -/

/-- What metadata refuses for itself is shown alike in both notations. -/
theorem Json.inFormat_of_refusal? {v : Json} {cause : ReadError}
    (refused : v.refusal? = some cause) (format : Format) :
    cause.inFormat format = cause := by
  cases v with
  | null =>
      cases refused
      rfl
  | integer value =>
      rw [refusal?] at refused
      split at refused
      · contradiction
      · cases refused
        rfl
  | _ => contradiction

namespace Metadata

theorem readEntries_toml (members : Json.Members)
    (unmarked : Json.EverywhereMembers Json.Unmarked members) :
    readEntries .toml (Json.toEntries members) =
      (readEntries .json (Json.toEntries members)).mapError (.inFormat .toml) := by
  rw [readEntries_toEntries members unmarked, readEntries_toEntries members unmarked]
  cases refused : (Json.memberParts members).findSome? Json.refusal? with
  | none => rfl
  | some cause =>
      obtain ⟨part, _, refusal⟩ := List.exists_of_findSome?_eq_some refused
      exact congrArg Except.error (Json.inFormat_of_refusal? refusal .toml).symm

/-- Metadata reads alike in both notations if no object inside it has the marker for its
first key. -/
theorem read_toml (v : Json)
    (unmarked : ∀ members, v = .object members →
      Json.EverywhereMembers Json.Unmarked members) :
    read .toml v.toValue = (read .json v.toValue).mapError (.inFormat .toml) := by
  cases v with
  | object members =>
      rw [Json.toValue, read, read, mapError_map,
        readEntries_toml members (unmarked members rfl)]
  | null => rfl
  | boolean => rfl
  | integer => rfl
  | float => rfl
  | string => rfl
  | array => rfl

end Metadata

/-! ## Fields of a seed -/

namespace Seed

theorem readRoles_toml (value : Value) :
    readRoles .toml value = (readRoles .json value).mapError (.inFormat .toml) := by
  have sequence (value : Value) :
      (do
        let items ← value.readSequence .toml
        let roles ← items.mapM (Value.readString .toml)
        Except.ok (some roles)) =
      (do
        let items ← value.readSequence .json
        let roles ← items.mapM (Value.readString .json)
        Except.ok (some roles) : Except ReadError (Option (List String))).mapError
          (.inFormat .toml) := by
    rw [mapError_bind, Value.readSequence_toml]
    congr 1
    funext items
    rw [mapError_bind, mapError_mapM]
    congr 2
    funext item
    exact item.readString_toml
  cases value with
  | null => rfl
  | _ => exact sequence _

theorem fields_alike {entry : String × Value}
    (metadata : entry.1 = "metadata" →
      Metadata.read .toml entry.2 =
        (Metadata.read .json entry.2).mapError (.inFormat .toml)) :
    Field.Alike (.inFormat .toml) entry (fields .json) (fields .toml) := by
  refine .cons ⟨rfl, fun _ => ?_⟩ (.cons ⟨rfl, fun _ => ?_⟩ (.cons ⟨rfl, fun _ => ?_⟩
    (.cons ⟨rfl, fun named => ?_⟩ .nil)))
  · simp only [mapError_bind, Value.readString_toml]
    rfl
  · simp only [mapError_bind, Value.readString_toml]
    rfl
  · simp only [mapError_bind, readRoles_toml]
    rfl
  · simp only [mapError_bind, metadata named.symm]
    rfl

theorem Draft.finish_toml (draft : Draft) :
    draft.finish.mapError (.inFormat .toml) = draft.finish := by
  unfold finish
  split <;> rfl

end Seed

/-! ## Seeds -/

/-- What a value that is offered as a seed holds for the metadata. -/
def Json.metadata? : Json → Option Json
  | .object members => Members.get? "metadata" members
  | .array items => items[3]?
  | _ => none

theorem Json.canonicalItems_eq_map (items : List Json) :
    canonicalItems items = items.map canonical := by
  induction items with
  | nil => rfl
  | cons item items induction => exact congrArg (item.canonical :: ·) induction

namespace Seed

theorem metadata_of_mem_entriesOf {value : Json} {format : Format} {held : Value}
    (distinct : ∀ members, value = .object members → (members.map Prod.fst).Nodup)
    (inside : ("metadata", held) ∈ Field.entriesOf (fields format) value.toValue) :
    ∃ v, value.metadata? = some v ∧ held = v.toValue := by
  cases value with
  | object members =>
      rw [Json.toValue, Field.entriesOf, Json.toEntries_eq_map] at inside
      obtain ⟨member, present, same⟩ := List.mem_map.mp inside
      obtain ⟨key, v⟩ := member
      cases same
      exact ⟨v, (Associations.lookup_eq_some_iff_mem (distinct members rfl)).mpr present, rfl⟩
  | array items =>
      rw [Json.toValue, Field.entriesOf, Json.toValues_eq_map] at inside
      obtain ⟨place, found⟩ := List.mem_iff_getElem?.mp inside
      obtain ⟨named, item⟩ := List.getElem?_zip_eq_some.mp found
      have fourth : place = 3 := by
        match place with
        | 0 | 1 | 2 => simp [fields] at named
        | 3 => rfl
        | _ + 4 => simp [fields] at named
      subst fourth
      rw [List.getElem?_map] at item
      obtain ⟨v, present, same⟩ := Option.map_eq_some_iff.mp item
      exact ⟨v, present, same.symm⟩
  | null => contradiction
  | boolean => contradiction
  | integer => contradiction
  | float => contradiction
  | string => contradiction

variable {value : Json}

theorem draft_toml
    (distinct : ∀ members, value = .object members → (members.map Prod.fst).Nodup)
    (unmarked : ∀ members, value.metadata? = some (.object members) →
      Json.EverywhereMembers Json.Unmarked members) :
    Field.readEntries (fields .toml) {} (Field.entriesOf (fields .json) value.toValue) =
      (Field.readEntries (fields .json) {}
        (Field.entriesOf (fields .json) value.toValue)).mapError (.inFormat .toml) := by
  refine Field.readEntries_of_alike (fun entry inside => fields_alike fun named => ?_) {}
  obtain ⟨name, held⟩ := entry
  subst named
  obtain ⟨v, present, same⟩ := metadata_of_mem_entriesOf distinct inside
  rw [same]
  exact Metadata.read_toml v fun members object => unmarked members (object ▸ present)

/-- A tree in which no key repeats is read alike in both notations. -/
theorem read_toml
    (distinct : ∀ members, value = .object members → (members.map Prod.fst).Nodup)
    (unmarked : ∀ members, value.metadata? = some (.object members) →
      Json.EverywhereMembers Json.Unmarked members)
    (short : ∀ items, value = .array items → items.length ≤ 4) :
    read .toml value.toValue = (read .json value.toValue).mapError (.inFormat .toml) := by
  have drafts := draft_toml distinct unmarked
  cases value with
  | object members =>
      have finished := funext Draft.finish_toml
      rw [Json.toValue, Field.entriesOf] at drafts
      rw [Json.toValue, read, read, readTable, readTable, mapError_bind, drafts, finished]
  | array items =>
      have notSurplus : ¬ 4 < (Json.toValues items).length := by
        rw [Json.toValues_eq_map, List.length_map]
        exact Nat.not_lt.mpr (short items rfl)
      rw [Json.toValue, Field.entriesOf] at drafts
      rw [Json.toValue, read, read, readArray, readArray, mapError_bind,
        Field.readItems_eq_readEntries _ (fields_distinct .toml),
        Field.readItems_eq_readEntries _ (fields_distinct .json), ← drafts]
      congr 1
      funext draft
      split
      · rfl
      · simp only [notSurplus, and_false, if_false, mapError_bind, draft.finish_toml]
        rfl
  | null => rfl
  | boolean => rfl
  | integer => rfl
  | float => rfl
  | string => rfl

/-- The same tree gives one outcome in both notations, whatever numbers and nulls are in
it: the same seed, or a refusal for the same cause.  Its message is the same too, unless
it shows a float with an exponent, which TOML writes positionally. -/
theorem outcome_in_both_notations (value : Json)
    (unmarked : ∀ members, value.canonical.metadata? = some (.object members) →
      Json.EverywhereMembers Json.Unmarked members)
    (short : ∀ items, value = .array items → items.length ≤ 4) :
    match ofJson value with
    | .ok seed => read .toml value.canonical.toValue = .ok seed
    | .error cause =>
        read .toml value.canonical.toValue = .error (cause.inFormat .toml) ∧
          (cause.showsExponent = false → (cause.inFormat .toml).message = cause.message) := by
  have distinct (members : Json.Members) (object : value.canonical = .object members) :
      (members.map Prod.fst).Nodup := by
    cases value with
    | object entries =>
        cases object
        exact (Json.Members.ordered_ofEntries _).distinct
    | _ => contradiction
  have short (items : List Json) (array : value.canonical = .array items) :
      items.length ≤ 4 := by
    cases value with
    | array entries =>
        cases array
        rw [Json.canonicalItems_eq_map, List.length_map]
        exact short entries rfl
    | _ => contradiction
  have alike := read_toml distinct unmarked short
  rw [ofJson]
  cases outcome : read .json value.canonical.toValue with
  | ok seed => exact alike.trans (congrArg _ outcome)
  | error cause => exact ⟨alike.trans (congrArg _ outcome), ReadError.message_inFormat⟩

/-- Metadata with a date-time marker of its own and an object inside. -/
def nestedMetadata : Json.Members :=
  [(datetimeMarker, .string "1979-05-27"),
    ("limits", .object [("a", .array [.boolean true, .object []]), ("b", .integer (-3))])]

def oneHalf : Finite64 :=
  ⟨false, ⟨0x3fe0000000000000, by decide⟩⟩

/-- A seed in the form of an array, of which the last role may be no string. -/
def listed (role : Json) : Json :=
  .array [.string "u", .string "e", .array [.string "admin", role], .object nestedMetadata]

theorem outcome_of_listed_seeds :
    ofJson (listed (.string "dev")) = .ok ⟨"u", "e", some ["admin", "dev"], nestedMetadata⟩ ∧
      read .toml (listed (.string "dev")).canonical.toValue =
        .ok ⟨"u", "e", some ["admin", "dev"], nestedMetadata⟩ ∧
      ofJson (listed (.float oneHalf)) =
        .error (.wrongType (.float (.finite oneHalf) .json) .string) ∧
      read .toml (listed (.float oneHalf)).canonical.toValue =
        .error (.wrongType (.float (.finite oneHalf) .toml) .string) ∧
      (ReadError.wrongType (.float (.finite oneHalf) .toml) .string).message =
        (ReadError.wrongType (.float (.finite oneHalf) .json) .string).message := by
  have unmarked (role : Json) (members : Json.Members)
      (holds : (listed role).canonical.metadata? = some (.object members)) :
      Json.EverywhereMembers Json.Unmarked members := by
    have metadata : (listed role).canonical.metadata? = some (.object nestedMetadata) := rfl
    cases Option.some.inj (metadata.symm.trans holds)
    simp [nestedMetadata, Json.EverywhereMembers, Json.Everywhere, Json.EverywhereItems,
      Json.Unmarked, datetimeMarker]
  have short (role : Json) (items : List Json) (array : listed role = .array items) :
      items.length ≤ 4 := by
    cases array
    exact Nat.le_refl 4
  have accepted : ofJson (listed (.string "dev")) =
      .ok ⟨"u", "e", some ["admin", "dev"], nestedMetadata⟩ := rfl
  have refused : ofJson (listed (.float oneHalf)) =
      .error (.wrongType (.float (.finite oneHalf) .json) .string) := rfl
  have same := outcome_in_both_notations (listed (.string "dev")) (unmarked _) (short _)
  have alike := outcome_in_both_notations (listed (.float oneHalf)) (unmarked _) (short _)
  rw [accepted] at same
  rw [refused] at alike
  exact ⟨accepted, same, refused, alike.1, alike.2 (by decide +kernel)⟩

end Seed

/-! ## A message that differs -/

/-- No null and no integer beyond the signed range: a scalar that TOML has as well. -/
def Json.Shared : Json → Prop
  | .null => False
  | .integer value => value < Numeral.signedBound
  | _ => True

namespace Seed

/-- The number `0.000001`. -/
def millionth : Finite64 :=
  ⟨false, ⟨0x3eb0c6f7a0b5ed8d, by decide⟩⟩

def misnamed : Json :=
  .object [("username", .float millionth), ("email", .string "e")]

/-- A float in place of the username is shown in two ways. -/
theorem messages_differ_for_misnamed :
    misnamed.Everywhere Json.Shared ∧
      (∀ members, misnamed.canonical.metadata? = some (.object members) →
        Json.EverywhereMembers Json.Unmarked members) ∧
      (∀ items, misnamed = .array items → items.length ≤ 4) ∧
      (ofJson misnamed).mapError ReadError.message ≠
        (read .toml misnamed.canonical.toValue).mapError ReadError.message := by
  have inJson : (ofJson misnamed).mapError ReadError.message =
      .error "invalid type: floating point `1e-6`, expected a string" := by
    have message : (ReadError.wrongType (.float (.finite millionth) .json) .string).message =
        "invalid type: floating point `1e-6`, expected a string" := by decide +kernel
    exact congrArg Except.error message
  have inToml : (read .toml misnamed.canonical.toValue).mapError ReadError.message =
      .error "invalid type: floating point `0.000001`, expected a string" := by
    have message : (ReadError.wrongType (.float (.finite millionth) .toml) .string).message =
        "invalid type: floating point `0.000001`, expected a string" := by decide +kernel
    exact congrArg Except.error message
  have noMetadata : misnamed.canonical.metadata? = none := rfl
  refine ⟨?_, ?_, ?_, ?_⟩
  · simp [misnamed, Json.Everywhere, Json.EverywhereMembers, Json.Shared]
  · intro members holds
    rw [noMetadata] at holds
    contradiction
  · intro items array
    contradiction
  · rw [inJson, inToml]
    intro same
    have texts := Except.error.inj same
    revert texts
    decide

end Seed

end UserRegistry
