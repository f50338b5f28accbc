import Mathlib.Data.List.Forall2
import UserRegistry.Proofs.ConfigReading
import UserRegistry.Proofs.SeedingOutcome

/-!
# Date-times in metadata

Reading metadata adds no key to those of the document, and a date-time inside metadata
counts as its text.  The one exception is a date-time that stands for the metadata as
a whole: it counts as a table, and its marker becomes the only key.
-/

namespace UserRegistry

/-! ## Keys at any depth -/

mutual

/-- The keys of all objects inside a value, its own included. -/
def Json.names : Json → List String
  | .array items => Json.itemNames items
  | .object members => Json.memberNames members
  | _ => []

def Json.itemNames : List Json → List String
  | [] => []
  | item :: items => item.names ++ Json.itemNames items

def Json.memberNames : List (String × Json) → List String
  | [] => []
  | (key, value) :: members => key :: value.names ++ Json.memberNames members

end

mutual

/-- The keys of all tables inside a value, its own included. -/
def Value.names : Value → List String
  | .array items => Value.itemNames items
  | .table entries => Value.entryNames entries
  | _ => []

def Value.itemNames : List Value → List String
  | [] => []
  | item :: items => item.names ++ Value.itemNames items

def Value.entryNames : List (String × Value) → List String
  | [] => []
  | (key, value) :: entries => key :: value.names ++ Value.entryNames entries

end

def Value.isDatetime : Value → Bool
  | .datetime _ => true
  | _ => false

mutual

/-- The same value with each date-time replaced by its canonical text. -/
def Value.datesAsText : Value → Value
  | .datetime value => .string value.text
  | .array items => .array (Value.itemDatesAsText items)
  | .table entries => .table (Value.entryDatesAsText entries)
  | other => other

def Value.itemDatesAsText : List Value → List Value
  | [] => []
  | item :: items => item.datesAsText :: Value.itemDatesAsText items

def Value.entryDatesAsText : List (String × Value) → List (String × Value)
  | [] => []
  | (key, value) :: entries => (key, value.datesAsText) :: Value.entryDatesAsText entries

end

theorem Json.mem_memberNames_iff {name : String} {members : List (String × Json)} :
    name ∈ memberNames members ↔
      ∃ member ∈ members, name = member.1 ∨ name ∈ member.2.names := by
  induction members with
  | nil => simp [memberNames]
  | cons member members induction =>
      simp [memberNames, induction, or_assoc]

theorem Value.mem_entryNames_iff {name : String} {entries : Entries} :
    name ∈ entryNames entries ↔
      ∃ entry ∈ entries, name = entry.1 ∨ name ∈ entry.2.names := by
  induction entries with
  | nil => simp [entryNames]
  | cons entry entries induction =>
      simp [entryNames, induction, or_assoc]

theorem Value.mem_itemNames_iff {name : String} {items : List Value} :
    name ∈ itemNames items ↔ ∃ item ∈ items, name ∈ item.names := by
  induction items with
  | nil => simp [itemNames]
  | cons item items induction => simp [itemNames, induction]

theorem Json.memberNames_ofEntries_subset (members : Members) :
    memberNames (Members.ofEntries members) ⊆ memberNames members := by
  intro name inside
  obtain ⟨member, bound, key⟩ := mem_memberNames_iff.mp inside
  exact mem_memberNames_iff.mpr ⟨member, Members.mem_of_mem_ofEntries bound, key⟩

namespace Metadata

/-! ## Reading without the marker -/

theorem isMarked_eq_false {entries : Entries}
    (unmarked : datetimeMarker ∉ Value.entryNames entries) : isMarked entries = false := by
  cases entries with
  | nil => rfl
  | cons entry entries =>
      obtain ⟨key, value⟩ := entry
      simp only [Value.entryNames, List.cons_append, List.mem_cons, not_or] at unmarked
      exact beq_eq_false_iff_ne.mpr (Ne.symm unmarked.1)

theorem isMarked_entryDatesAsText (entries : Entries) :
    isMarked (Value.entryDatesAsText entries) = isMarked entries := by
  cases entries <;> rfl

mutual

/-- Reading a value that has no marker adds no key. -/
theorem names_readValue {format : Format} (value : Value) {result : Json}
    (unmarked : datetimeMarker ∉ value.names)
    (read : readValue format value = .ok result) : result.names ⊆ value.names := by
  cases value with
  | null => contradiction
  | boolean value =>
      cases read
      exact List.nil_subset _
  | integer value =>
      rw [readValue] at read
      split at read
      · cases read
        exact List.nil_subset _
      · contradiction
  | float value =>
      cases value <;> cases read <;> exact List.nil_subset _
  | string text =>
      cases read
      exact List.nil_subset _
  | datetime value =>
      cases read
      exact List.nil_subset _
  | array items =>
      obtain ⟨found, items, rfl⟩ := map_eq_ok_iff.mp read
      exact names_readItems _ unmarked items
  | table entries =>
      rw [readValue_table (isMarked_eq_false unmarked)] at read
      obtain ⟨found, members, rfl⟩ := map_eq_ok_iff.mp read
      exact List.Subset.trans (Json.memberNames_ofEntries_subset found)
        (names_readEntries _ unmarked members)

theorem names_readItems {format : Format} (items : List Value) {results : List Json}
    (unmarked : datetimeMarker ∉ Value.itemNames items)
    (read : readItems format items = .ok results) :
    Json.itemNames results ⊆ Value.itemNames items := by
  cases items with
  | nil =>
      cases read
      exact List.nil_subset _
  | cons item items =>
      simp only [Value.itemNames, List.mem_append, not_or] at unmarked
      obtain ⟨first, head, rest⟩ := bind_eq_ok_iff.mp read
      obtain ⟨others, tail, equality⟩ := bind_eq_ok_iff.mp rest
      cases equality
      exact List.append_subset.mpr
        ⟨List.subset_append_of_subset_left _ (names_readValue item unmarked.1 head),
          List.subset_append_of_subset_right _ (names_readItems items unmarked.2 tail)⟩

theorem names_readEntries {format : Format} (entries : Entries)
    {members : List (String × Json)}
    (unmarked : datetimeMarker ∉ Value.entryNames entries)
    (read : readEntries format entries = .ok members) :
    Json.memberNames members ⊆ Value.entryNames entries := by
  cases entries with
  | nil =>
      cases read
      exact List.nil_subset _
  | cons entry entries =>
      obtain ⟨key, value⟩ := entry
      simp only [Value.entryNames, List.cons_append, List.mem_cons, List.mem_append,
        not_or] at unmarked
      obtain ⟨first, head, rest⟩ := bind_eq_ok_iff.mp read
      obtain ⟨others, tail, equality⟩ := bind_eq_ok_iff.mp rest
      cases equality
      exact List.cons_subset_cons key (List.append_subset.mpr
        ⟨List.subset_append_of_subset_left _ (names_readValue value unmarked.2.1 head),
          List.subset_append_of_subset_right _
            (names_readEntries entries unmarked.2.2 tail)⟩)

end

mutual

/-- In a value that has no marker every date-time counts as its text. -/
theorem readValue_datesAsText (format : Format) (value : Value)
    (unmarked : datetimeMarker ∉ value.names) :
    readValue format value.datesAsText = readValue format value := by
  cases value with
  | array items =>
      rw [Value.datesAsText, readValue, readItems_datesAsText format items unmarked,
        readValue]
  | table entries =>
      have first := isMarked_eq_false unmarked
      have firstAsText := (isMarked_entryDatesAsText entries).trans first
      rw [Value.datesAsText, readValue_table firstAsText, readValue_table first,
        readEntries_datesAsText format entries unmarked]
  | datetime value => rfl
  | null => rfl
  | boolean => rfl
  | integer => rfl
  | float => rfl
  | string => rfl

theorem readItems_datesAsText (format : Format) (items : List Value)
    (unmarked : datetimeMarker ∉ Value.itemNames items) :
    readItems format (Value.itemDatesAsText items) = readItems format items := by
  cases items with
  | nil => rfl
  | cons item items =>
      simp only [Value.itemNames, List.mem_append, not_or] at unmarked
      rw [Value.itemDatesAsText, readItems, readItems,
        readValue_datesAsText format item unmarked.1,
        readItems_datesAsText format items unmarked.2]

theorem readEntries_datesAsText (format : Format) (entries : Entries)
    (unmarked : datetimeMarker ∉ Value.entryNames entries) :
    readEntries format (Value.entryDatesAsText entries) = readEntries format entries := by
  cases entries with
  | nil => rfl
  | cons entry entries =>
      obtain ⟨key, value⟩ := entry
      simp only [Value.entryNames, List.cons_append, List.mem_cons, List.mem_append,
        not_or] at unmarked
      rw [Value.entryDatesAsText, readEntries, readEntries,
        readValue_datesAsText format value unmarked.2.1,
        readEntries_datesAsText format entries unmarked.2.2]

end

/-- Metadata other than a single date-time has no marker, and reads alike with its
date-times as text. -/
theorem names_and_datesAsText_of_read {format : Format} {value : Value}
    {members : Json.Members} (unmarked : datetimeMarker ∉ value.names)
    (undated : ∀ date, value ≠ .datetime date)
    (result : read format value = .ok members) :
    datetimeMarker ∉ Json.memberNames members ∧
      read format value.datesAsText = .ok members := by
  cases value with
  | table entries =>
      obtain ⟨found, readable, rfl⟩ := map_eq_ok_iff.mp result
      have subset : Json.memberNames (Json.Members.ofEntries found) ⊆
          Value.entryNames entries :=
        List.Subset.trans (Json.memberNames_ofEntries_subset found)
          (names_readEntries entries unmarked readable)
      refine ⟨fun inside => unmarked (subset inside), ?_⟩
      rw [Value.datesAsText, read, readEntries_datesAsText format entries unmarked,
        readable]
      rfl
  | datetime date => exact absurd rfl (undated date)
  | null => contradiction
  | boolean => contradiction
  | integer => contradiction
  | float => contradiction
  | string => contradiction
  | array => contradiction

end Metadata

/-! ## Seeds and users -/

theorem User.marker_mem_names_iff (user : User) :
    datetimeMarker ∈ user.toJson.names ↔
      datetimeMarker ∈ Json.memberNames user.metadata := by
  have roles : ∀ texts : List String, Json.itemNames (texts.map .string) = [] := by
    intro texts
    induction texts with
    | nil => rfl
    | cons text texts induction => simpa [Json.itemNames, Json.names] using induction
  simp [toJson, Json.names, Json.memberNames, roles, datetimeMarker]

namespace Seed

/-- The value that the metadata of a seed is read from. -/
def metadataValue? (value : Value) : Option Value :=
  Field.lastValue? "metadata" (Field.entriesOf (fields .toml) value)

theorem names_metadataValue?_subset {value held : Value}
    (metadata : metadataValue? value = some held) : held.names ⊆ value.names := by
  intro name inside
  have entry := Field.mem_of_lastValue? metadata
  cases value with
  | table entries =>
      exact Value.mem_entryNames_iff.mpr ⟨_, entry, .inr inside⟩
  | array items =>
      exact Value.mem_itemNames_iff.mpr ⟨held, (List.of_mem_zip entry).2, inside⟩
  | datetime date => simp [Field.entriesOf, datetimeMarker] at entry
  | null => contradiction
  | boolean => contradiction
  | integer => contradiction
  | float => contradiction
  | string => contradiction

/-- The metadata of a seed, of every user made from it and of the JSON of such a user
has no date-time marker at any depth, and each date-time counts as its text. -/
structure DatesAsText (value : Value) (seed : Seed) : Prop where
  unmarked : datetimeMarker ∉ Json.memberNames seed.metadata
  unmarkedUser : ∀ (source : Source) (n : Nat),
    datetimeMarker ∉ Json.memberNames (source.sow n seed).metadata ∧
      datetimeMarker ∉ (source.sow n seed).toJson.names
  readAsText : ∀ held, metadataValue? value = some held →
    Metadata.read .toml held.datesAsText = .ok seed.metadata

theorem datesAsText_of_read {value : Value} {seed : Seed}
    (unmarked : datetimeMarker ∉ value.names)
    (undated : ∀ date, metadataValue? value ≠ some (.datetime date))
    (result : read .toml value = .ok seed) : DatesAsText value seed := by
  have unmarkedSeed : datetimeMarker ∉ Json.memberNames seed.metadata ∧
      ∀ held, metadataValue? value = some held →
        Metadata.read .toml held.datesAsText = .ok seed.metadata := by
    have metadata := metadata_of_read result
    rw [← metadataValue?] at metadata
    cases named : metadataValue? value with
    | none =>
        rw [named] at metadata
        rw [metadata]
        exact ⟨List.not_mem_nil, fun held equality => by contradiction⟩
    | some held =>
        rw [named] at metadata
        have heldUnmarked : datetimeMarker ∉ held.names :=
          fun inside => unmarked (names_metadataValue?_subset named inside)
        have heldUndated : ∀ date, held ≠ .datetime date := by
          rintro date rfl
          exact undated date named
        have both :=
          Metadata.names_and_datesAsText_of_read heldUnmarked heldUndated metadata
        refine ⟨both.1, ?_⟩
        rintro same equality
        cases equality
        exact both.2
  have unmarkedUser (source : Source) (n : Nat) :
      datetimeMarker ∉ Json.memberNames (source.sow n seed).metadata := by
    rw [Source.sow_eq]
    intro inside
    exact unmarkedSeed.1 (Json.memberNames_ofEntries_subset seed.metadata inside)
  refine ⟨unmarkedSeed.1, fun source n => ⟨unmarkedUser source n, ?_⟩, unmarkedSeed.2⟩
  rw [User.marker_mem_names_iff]
  exact unmarkedUser source n

theorem metadata_of_read_of_datetime {value : Value} {seed : Seed} {date : Datetime}
    (named : metadataValue? value = some (.datetime date))
    (result : read .toml value = .ok seed) :
    seed.metadata = [(datetimeMarker, .string date.text)] := by
  have metadata := metadata_of_read result
  rw [← metadataValue?, named] at metadata
  exact (Except.ok.inj metadata).symm

end Seed

/-! ## Configurations -/

namespace Config

theorem names_seedValue_subset {entries : Entries} {value : Value}
    (listed : value ∈ seedValues entries) : value.names ⊆ Value.entryNames entries := by
  unfold seedValues at listed
  split at listed
  · rename_i items last
    intro name inside
    exact Value.mem_entryNames_iff.mpr
      ⟨_, Field.mem_of_lastValue? last, .inr
        (Value.mem_itemNames_iff.mpr ⟨value, listed, inside⟩)⟩
  · contradiction

/-- In a document without the marker a date-time gives it to the metadata of a seed
exactly when the date-time stands for that metadata as a whole.  All other date-times
count as text wherever they are. -/
theorem dates_in_metadata_of_parse {text : String} {entries : Entries} {config : Config}
    (document : Toml.parse? text = some entries)
    (unmarked : datetimeMarker ∉ Value.entryNames entries)
    (accepted : parse text = .ok config) :
    List.Forall₂
      (fun value seed =>
        (∀ date, Seed.metadataValue? value = some (.datetime date) →
          seed.metadata = [(datetimeMarker, .string date.text)]) ∧
        ((∀ date, Seed.metadataValue? value ≠ some (.datetime date)) →
          Seed.DatesAsText value seed))
      (seedValues entries) config.users := by
  obtain ⟨same, parsed, readable, _⟩ := parse_eq_ok_iff.mp accepted
  cases document.symm.trans parsed
  have unmarkedValues : ∀ value ∈ seedValues entries, datetimeMarker ∉ value.names :=
    fun value listed inside => unmarked (names_seedValue_subset listed inside)
  have seeds := (List.forall₂_and_left _ _).mpr ⟨unmarkedValues, seeds_of_read readable⟩
  refine seeds.imp fun value seed ⟨valueUnmarked, result⟩ => ⟨?_, ?_⟩
  · intro date named
    exact Seed.metadata_of_read_of_datetime named result
  · intro undated
    exact Seed.datesAsText_of_read valueUnmarked undated result

/-- Date-times in an array of a seed that is an array itself, in an inline table and
under a header. -/
theorem dates_in_metadata_of_nested_dates :
    let text := "users = [['u', 'e', [], \x7bat = [1979-05-27, \x7bon = 07:32:00\x7d]\x7d]]"
    ∃ entries config,
      Toml.parse? text = some entries ∧ datetimeMarker ∉ Value.entryNames entries ∧
        parse text = .ok config ∧
        config.users.map (fun seed => (Json.object seed.metadata).compact) =
          ["\x7b\"at\":[\"1979-05-27\",\x7b\"on\":\"07:32:00\"\x7d]\x7d"] ∧
        List.Forall₂ Seed.DatesAsText (seedValues entries) config.users := by
  intro text
  have document : (Toml.parse? text).map (fun entries =>
        (decide (datetimeMarker ∉ Value.entryNames entries),
          (seedValues entries).all fun value =>
            !(Seed.metadataValue? value).any Value.isDatetime)) =
      some (true, true) := by
    decide +kernel
  have accepted : (parse text).map (fun config =>
        config.users.map fun seed => (Json.object seed.metadata).compact) =
      .ok ["\x7b\"at\":[\"1979-05-27\",\x7b\"on\":\"07:32:00\"\x7d]\x7d"] := by
    decide +kernel
  obtain ⟨entries, parsed, checked⟩ := Option.map_eq_some_iff.mp document
  obtain ⟨config, loaded, printed⟩ := map_eq_ok_iff.mp accepted
  obtain ⟨unmarked, undated⟩ := Prod.mk.inj checked
  rw [decide_eq_true_iff] at unmarked
  rw [List.all_eq_true] at undated
  refine ⟨entries, config, parsed, unmarked, loaded, printed, ?_⟩
  have dates := dates_in_metadata_of_parse parsed unmarked loaded
  refine ((List.forall₂_and_left _ _).mpr ⟨undated, dates⟩).imp ?_
  rintro value seed ⟨valueUndated, _, asText⟩
  apply asText
  intro date named
  simp [named, Value.isDatetime] at valueUndated

/-- A date in place of the metadata is accepted and leaves its marker there. -/
theorem marker_of_date_as_metadata :
    let text := "[[users]]\nusername = 'u'\nemail = 'e'\nmetadata = 1979-05-27\n"
    ∃ entries config,
      Toml.parse? text = some entries ∧ datetimeMarker ∉ Value.entryNames entries ∧
        parse text = .ok config ∧
        ∃ seed ∈ config.users, datetimeMarker ∈ Json.memberNames seed.metadata := by
  intro text
  have document : (Toml.parse? text).map (fun entries =>
      decide (datetimeMarker ∉ Value.entryNames entries)) = some true := by
    decide +kernel
  have accepted : (parse text).map (fun config => decide (∃ seed ∈ config.users,
      datetimeMarker ∈ Json.memberNames seed.metadata)) = .ok true := by
    decide +kernel
  obtain ⟨entries, parsed, unmarked⟩ := Option.map_eq_some_iff.mp document
  obtain ⟨config, loaded, marked⟩ := map_eq_ok_iff.mp accepted
  exact ⟨entries, config, parsed, of_decide_eq_true unmarked, loaded,
    of_decide_eq_true marked⟩

end Config

end UserRegistry
