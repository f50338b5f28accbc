import UserRegistry.Proofs.ConfigReading
import UserRegistry.Proofs.MetadataPaths

/-!
# First faults

A document is refused for the first fault in it, in the order of its text.  What stands
behind that fault does not matter, be it further faults, and neither do entries that
belong to no field.  That a seed has no username or no email is told last, when all
entries that it does have were read.
-/

namespace UserRegistry

namespace Field

variable {Record : Type} {fields : List (Field Record)} {cause : ReadError}

/-- While no two fields have the same name, an entry is misread by the field of its name. -/
theorem misreadsFor_iff (distinct : (fields.map Field.name).Nodup)
    {entry : String × Value} :
    MisreadsFor fields cause entry ↔
      ∃ field ∈ fields, field.name = entry.1 ∧ field.read entry.2 = .error cause := by
  constructor
  · intro misread
    obtain ⟨field, found, failed⟩ := misread
    have named : field.name = entry.1 := by simpa using List.find?_some found
    exact ⟨field, List.mem_of_find?_eq_some found, named, failed⟩
  · intro misread
    obtain ⟨field, inside, named, failed⟩ := misread
    obtain ⟨before, after, rfl⟩ := List.append_of_mem inside
    refine ⟨field, ?_, failed⟩
    rw [← named]
    exact find?_name distinct

/-- Entries are refused for the first that is misread, where what that means may be said
in another way. -/
theorem readEntries_fails_first {fault : ReadError → String × Value → Prop}
    (faults : ∀ cause entry, MisreadsFor fields cause entry ↔ fault cause entry)
    (record : Record) {entries : Entries} :
    readEntries fields record entries = .error cause ↔ FirstFault fault cause entries := by
  rw [readEntries_eq_error_iff]
  simp only [FirstFault, faults]

end Field

/-! ## Entries at fault -/

/-- An entry of a logging table whose value does not fit its field. -/
inductive Logging.EntryMisread (cause : ReadError) : String × Value → Prop where
  | level {value : Value} :
      value.readString .toml = .error cause → EntryMisread cause ("level", value)
  | format {value : Value} :
      value.readString .toml = .error cause → EntryMisread cause ("format", value)
  | console {value : Value} :
      value.readBoolean .toml = .error cause → EntryMisread cause ("console", value)

theorem Logging.misreadsFor_iff {cause : ReadError} {entry : String × Value} :
    Field.MisreadsFor fields cause entry ↔ EntryMisread cause entry := by
  obtain ⟨key, value⟩ := entry
  have distinct : (fields.map Field.name).Nodup := by simp [fields]
  rw [Field.misreadsFor_iff distinct]
  simp only [fields, List.exists_mem_cons_iff, bind_ok_eq_error_iff]
  constructor
  · rintro (⟨rfl, failed⟩ | ⟨rfl, failed⟩ | ⟨rfl, failed⟩ | none)
    · exact .level failed
    · exact .format failed
    · exact .console failed
    · simp at none
  · intro misread
    cases misread with
    | level failed => simp [failed]
    | format failed => simp [failed]
    | console failed => simp [failed]

/-- An entry of a memory table whose value does not fit its field. -/
inductive Memory.EntryMisread (cause : ReadError) : String × Value → Prop where
  | userCapacity {value : Value} :
      value.readSize .toml = .error cause → EntryMisread cause ("user_capacity", value)

theorem Memory.misreadsFor_iff {cause : ReadError} {entry : String × Value} :
    Field.MisreadsFor fields cause entry ↔ EntryMisread cause entry := by
  obtain ⟨key, value⟩ := entry
  have distinct : (fields.map Field.name).Nodup := by simp [fields]
  rw [Field.misreadsFor_iff distinct]
  simp only [fields, List.exists_mem_cons_iff, bind_ok_eq_error_iff]
  constructor
  · rintro (⟨rfl, failed⟩ | none)
    · exact .userCapacity failed
    · simp at none
  · intro misread
    cases misread with
    | userCapacity failed => simp [failed]

/-- An entry of a document whose value does not fit its field. -/
inductive Config.EntryMisread (cause : ReadError) : String × Value → Prop where
  | logging {value : Value} :
      Logging.read value = .error cause → EntryMisread cause ("logging", value)
  | memory {value : Value} :
      Memory.read value = .error cause → EntryMisread cause ("memory", value)
  | users {value : Value} :
      readSeeds value = .error cause → EntryMisread cause ("users", value)

theorem Config.misreadsFor_iff {cause : ReadError} {entry : String × Value} :
    Field.MisreadsFor fields cause entry ↔ EntryMisread cause entry := by
  obtain ⟨key, value⟩ := entry
  have distinct : (fields.map Field.name).Nodup := by simp [fields]
  rw [Field.misreadsFor_iff distinct]
  simp only [fields, List.exists_mem_cons_iff, bind_ok_eq_error_iff]
  constructor
  · rintro (⟨rfl, failed⟩ | ⟨rfl, failed⟩ | ⟨rfl, failed⟩ | none)
    · exact .logging failed
    · exact .memory failed
    · exact .users failed
    · simp at none
  · intro misread
    cases misread with
    | logging failed => simp [failed]
    | memory failed => simp [failed]
    | users failed => simp [failed]

namespace Seed

/-- An entry of a seed whose value does not fit its field. -/
inductive EntryMisread (format : Format) (cause : ReadError) : String × Value → Prop where
  | username {value : Value} :
      value.readString format = .error cause → EntryMisread format cause ("username", value)
  | email {value : Value} :
      value.readString format = .error cause → EntryMisread format cause ("email", value)
  | roles {value : Value} :
      readRoles format value = .error cause → EntryMisread format cause ("roles", value)
  | metadata {value : Value} :
      Metadata.read format value = .error cause →
      EntryMisread format cause ("metadata", value)

variable {format : Format} {cause : ReadError} {entries : Entries}

theorem misreadsFor_iff {entry : String × Value} :
    Field.MisreadsFor (fields format) cause entry ↔ EntryMisread format cause entry := by
  obtain ⟨key, value⟩ := entry
  rw [Field.misreadsFor_iff (fields_distinct format)]
  simp only [fields, List.exists_mem_cons_iff, bind_ok_eq_error_iff]
  constructor
  · rintro (⟨rfl, failed⟩ | ⟨rfl, failed⟩ | ⟨rfl, failed⟩ | ⟨rfl, failed⟩ | none)
    · exact .username failed
    · exact .email failed
    · exact .roles failed
    · exact .metadata failed
    · simp at none
  · intro misread
    cases misread with
    | username failed => simp [failed]
    | email failed => simp [failed]
    | roles failed => simp [failed]
    | metadata failed => simp [failed]

/-! ## Missing fields -/

/-- What a table lacks to be a seed: the username, or else the email. -/
inductive FirstMissing (entries : Entries) : String → Prop where
  | username : "username" ∉ entries.map Prod.fst → FirstMissing entries "username"
  | email : "username" ∈ entries.map Prod.fst → "email" ∉ entries.map Prod.fst →
      FirstMissing entries "email"

/-- All entries are read. -/
def Readable (format : Format) (entries : Entries) : Prop :=
  ∀ entry ∈ entries, ∀ cause, ¬ EntryMisread format cause entry

theorem readable_iff :
    Readable format entries ↔
      ∃ draft, Field.readEntries (fields format) {} entries = .ok draft := by
  have refused : (∃ cause, Field.readEntries (fields format) {} entries = .error cause) ↔
      ¬ Readable format entries := by
    rw [Field.readEntries_fails_iff]
    simp [Field.misreads_iff_exists, misreadsFor_iff, Readable]
  rw [← not_iff_not, ← refused]
  cases Field.readEntries (fields format) {} entries with
  | ok draft => simp
  | error cause => simp

theorem finish_eq_error_iff {draft : Draft}
    (drafted : Field.readEntries (fields format) {} entries = .ok draft) :
    draft.finish = .error cause ↔
      ∃ name, FirstMissing entries name ∧ cause = .missingField name := by
  have username := (fields_own_username format).eq_none_iff rfl drafted
  have email := (fields_own_email format).eq_none_iff rfl drafted
  constructor
  · intro unfinished
    unfold Draft.finish at unfinished
    split at unfinished
    · rename_i none
      cases unfinished
      exact ⟨"username", .username (username.mp none), rfl⟩
    · rename_i some none
      cases unfinished
      have named : "username" ∈ entries.map Prod.fst := by
        by_contra absent
        rw [username.mpr absent] at some
        contradiction
      exact ⟨"email", .email named (email.mp none), rfl⟩
    · contradiction
  · intro lacking
    obtain ⟨name, missing, rfl⟩ := lacking
    unfold Draft.finish
    cases missing with
    | username absent => rw [username.mpr absent]
    | email named absent =>
        cases held : draft.username with
        | none => exact absurd named (username.mp held)
        | some text => rw [email.mpr absent]

/-- A table is refused as a seed for the first entry that is misread or, if there is none,
for what it lacks. -/
theorem readTable_eq_error_iff :
    readTable format entries = .error cause ↔
      FirstFault (EntryMisread format) cause entries ∨
        Readable format entries ∧
          ∃ name, FirstMissing entries name ∧ cause = .missingField name := by
  rw [readTable, bind_eq_error_iff,
    Field.readEntries_fails_first fun _ _ => misreadsFor_iff, readable_iff, ← exists_and_right]
  apply or_congr_right
  apply exists_congr
  intro draft
  apply and_congr_right
  intro drafted
  exact finish_eq_error_iff drafted

end Seed

/-! ## What values do not tell -/

/-- The cause is a fault of some value, and not that a field is missing. -/
def ReadError.OfValue (cause : ReadError) : Prop :=
  ∀ name, cause ≠ .missingField name

section OfValue

variable {format : Format} {cause : ReadError}

theorem Value.ofValue_of_readString {value : Value}
    (failed : value.readString format = .error cause) : cause.OfValue := by
  intro name missing
  subst missing
  cases value <;> cases failed

theorem Seed.ofValue_of_readRoles {value : Value}
    (failed : readRoles format value = .error cause) : cause.OfValue := by
  cases value with
  | array items =>
      have texts : items.mapM (Value.readString format) = .error cause :=
        bind_ok_eq_error_iff.mp failed
      obtain ⟨_, item, _, _, _, misread⟩ := mapM_eq_error_iff.mp texts
      exact Value.ofValue_of_readString misread
  | null => contradiction
  | _ =>
      intro name missing
      subst missing
      cases failed

namespace Metadata

theorem ofValue_of_readMarked {entries : Entries}
    (failed : readMarked format entries = .error cause) : cause.OfValue := by
  intro name missing
  subst missing
  unfold readMarked at failed
  split at failed
  · contradiction
  · split at failed
    · cases failed
    · split at failed <;> cases failed
  · cases failed

mutual

theorem ofValue_of_readValue (value : Value) {cause : ReadError}
    (failed : readValue format value = .error cause) : cause.OfValue := by
  cases value with
  | array items =>
      rw [readValue] at failed
      exact ofValue_of_readItems items (map_eq_error_iff.mp failed)
  | table entries =>
      rw [readValue] at failed
      split at failed
      · exact ofValue_of_readMarked failed
      · exact ofValue_of_readEntries entries (map_eq_error_iff.mp failed)
  | integer value =>
      rw [readValue] at failed
      split at failed
      · contradiction
      · cases failed
        intro name
        simp
  | float number => cases number <;> contradiction
  | null =>
      cases failed
      intro name
      simp
  | boolean => contradiction
  | string => contradiction
  | datetime => contradiction

theorem ofValue_of_readItems (items : List Value) {cause : ReadError}
    (failed : readItems format items = .error cause) : cause.OfValue := by
  cases items with
  | nil => contradiction
  | cons item items =>
      rw [readItems] at failed
      rcases bind_eq_error_iff.mp failed with here | ⟨_, _, rest⟩
      · exact ofValue_of_readValue item here
      · exact ofValue_of_readItems items (bind_ok_eq_error_iff.mp rest)

theorem ofValue_of_readEntries (entries : Entries) {cause : ReadError}
    (failed : readEntries format entries = .error cause) : cause.OfValue := by
  cases entries with
  | nil => contradiction
  | cons entry entries =>
      rw [readEntries] at failed
      rcases bind_eq_error_iff.mp failed with here | ⟨_, _, rest⟩
      · exact ofValue_of_readValue entry.2 here
      · exact ofValue_of_readEntries entries (bind_ok_eq_error_iff.mp rest)

end

theorem ofValue_of_read {value : Value} (failed : read format value = .error cause) :
    cause.OfValue := by
  cases value with
  | table entries => exact ofValue_of_readEntries entries (map_eq_error_iff.mp failed)
  | datetime => contradiction
  | _ =>
      intro name missing
      subst missing
      cases failed

/-! ## Metadata at fault -/

theorem readEntries_eq_error_iff {entries : Entries} :
    readEntries format entries = .error cause ↔
      FirstFault (fun cause entry => readValue format entry.2 = .error cause) cause
        entries := by
  rw [readEntries_eq_mapM, mapM_eq_error_iff]
  simp only [map_eq_error_iff]

theorem readValue_array_eq_error_iff {items : List Value} :
    readValue format (.array items) = .error cause ↔
      FirstFault (fun cause item => readValue format item = .error cause) cause items := by
  rw [readValue, map_eq_error_iff, readItems_eq_mapM, mapM_eq_error_iff]

end Metadata

theorem Seed.EntryMisread.ofValue {entry : String × Value}
    (misread : EntryMisread format cause entry) : cause.OfValue := by
  cases misread with
  | username failed => exact Value.ofValue_of_readString failed
  | email failed => exact Value.ofValue_of_readString failed
  | roles failed => exact ofValue_of_readRoles failed
  | metadata failed => exact Metadata.ofValue_of_read failed

/-- A missing field is told exactly when all entries are read and the field is the first
that is missing. -/
theorem Seed.readTable_eq_missingField_iff {entries : Entries} {name : String} :
    readTable format entries = .error (.missingField name) ↔
      Readable format entries ∧ FirstMissing entries name := by
  rw [readTable_eq_error_iff]
  constructor
  · rintro (first | ⟨readable, other, missing, same⟩)
    · obtain ⟨_, entry, _, _, _, misread⟩ := first
      exact absurd rfl (misread.ofValue name)
    · cases same
      exact ⟨readable, missing⟩
  · intro lacking
    exact .inr ⟨lacking.1, name, lacking.2, rfl⟩

end OfValue

namespace Config

/-- Documents, logging and memory tables, the users, seeds and metadata are refused for the
first fault in them, whatever stands behind it.  That a seed lacks its username, or else
its email, is told exactly when all entries that it has are read. -/
theorem first_fault_is_told :
    (∀ entries cause, read entries = .error cause ↔ FirstFault EntryMisread cause entries) ∧
      (∀ entries cause, Logging.read (.table entries) = .error cause ↔
        FirstFault Logging.EntryMisread cause entries) ∧
      (∀ entries cause, Memory.read (.table entries) = .error cause ↔
        FirstFault Memory.EntryMisread cause entries) ∧
      (∀ items cause, readSeeds (.array items) = .error cause ↔
        FirstFault (fun cause item => Seed.read .toml item = .error cause) cause items) ∧
      (∀ entries cause, Seed.read .toml (.table entries) = .error cause ↔
        FirstFault (Seed.EntryMisread .toml) cause entries ∨
          Seed.Readable .toml entries ∧
            ∃ name, Seed.FirstMissing entries name ∧ cause = .missingField name) ∧
      (∀ entries name, Seed.read .toml (.table entries) = .error (.missingField name) ↔
        Seed.Readable .toml entries ∧ Seed.FirstMissing entries name) ∧
      (∀ entries cause, Metadata.read .toml (.table entries) = .error cause ↔
        FirstFault (fun cause entry => Metadata.readValue .toml entry.2 = .error cause)
          cause entries) ∧
      (∀ items cause, Metadata.readValue .toml (.array items) = .error cause ↔
        FirstFault (fun cause item => Metadata.readValue .toml item = .error cause)
          cause items) ∧
      ∀ entries cause, Metadata.isMarked entries = false →
        (Metadata.readValue .toml (.table entries) = .error cause ↔
          FirstFault (fun cause entry => Metadata.readValue .toml entry.2 = .error cause)
            cause entries) := by
  refine ⟨?_, ?_, ?_, ?_, ?_, ?_, ?_, ?_, ?_⟩
  · intro entries cause
    exact Field.readEntries_fails_first (fun _ _ => misreadsFor_iff) {}
  · intro entries cause
    exact Field.readEntries_fails_first (fun _ _ => Logging.misreadsFor_iff) {}
  · intro entries cause
    exact Field.readEntries_fails_first (fun _ _ => Memory.misreadsFor_iff) {}
  · intro items cause
    exact mapM_eq_error_iff
  · intro entries cause
    exact Seed.readTable_eq_error_iff
  · intro entries name
    exact Seed.readTable_eq_missingField_iff
  · intro entries cause
    exact map_eq_error_iff.trans Metadata.readEntries_eq_error_iff
  · intro items cause
    exact Metadata.readValue_array_eq_error_iff
  · intro entries cause unmarked
    rw [Metadata.readValue_table unmarked]
    exact map_eq_error_iff.trans Metadata.readEntries_eq_error_iff

/-- A table of metadata in which two of three dates are none, each for its own cause. -/
def undated : Entries :=
  [ ("released", .table [(datetimeMarker, .string "1979-05-27")]),
    ("built", .table [(datetimeMarker, .integer 1979)]),
    ("sold", .table [(datetimeMarker, .string "")]) ]

/-- The second date is at fault, since the first one is read. -/
theorem first_fault_of_undated :
    Metadata.isMarked undated = false ∧
      FirstFault (fun cause entry => Metadata.readValue .toml entry.2 = .error cause)
        (.wrongType (.integer 1979) .datetimeText) undated := by
  have unmarked : Metadata.isMarked undated = false := by decide
  have told : Metadata.readValue .toml (.table undated) =
      .error (.wrongType (.integer 1979) .datetimeText) := rfl
  obtain ⟨_, _, _, _, _, _, _, _, nested⟩ := first_fault_is_told
  exact ⟨unmarked, (nested undated _ unmarked).mp told⟩

end Config

end UserRegistry
