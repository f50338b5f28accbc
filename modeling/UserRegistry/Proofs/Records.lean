import Mathlib.Data.List.Induction
import UserRegistry.Proofs.Associations
import UserRegistry.Proofs.Outcomes
import UserRegistry.Record.Fields

/-!
# Reading records step by step

A record is read by setting its fields one after the other, from a table or from an
array.  What one field alone sets is read from the last entry with its name, whatever
the other entries are, and an array is read as the table that gives its items to the
fields in turn.
-/

namespace UserRegistry

/-- Tables, arrays, and date-times as the tables that stand for them: the values that are
read as records. -/
def Value.IsRecord : Value → Prop
  | .table _ => True
  | .array _ => True
  | .datetime _ => True
  | _ => False

namespace Field

variable {Record : Type} {record changed : Record} {fields : List (Field Record)}

/-! ## The part of a record that one field sets -/

/-- The value of the last entry with a name. -/
def lastValue? (name : String) (entries : Entries) : Option Value :=
  entries.reverse.lookup name

theorem lastValue?_concat (name : String) (entries : Entries) (entry : String × Value) :
    lastValue? name (entries ++ [entry]) =
      if name = entry.1 then some entry.2 else lastValue? name entries := by
  rw [lastValue?, List.reverse_append]
  exact Associations.lookup_cons_eq_ite name entry.1 entry.2 entries.reverse

theorem mem_of_lastValue? {name : String} {entries : Entries} {value : Value}
    (last : lastValue? name entries = some value) : (name, value) ∈ entries :=
  List.mem_reverse.mp (Associations.mem_of_lookup last)

theorem lastValue?_eq_none_iff {name : String} {entries : Entries} :
    lastValue? name entries = none ↔ name ∉ entries.map Prod.fst := by
  rw [lastValue?, Associations.lookup_eq_none_iff_not_mem, List.map_reverse, List.mem_reverse]

theorem lastValue?_eq_some_iff_mem {name : String} {entries : Entries} {value : Value}
    (distinct : (entries.map Prod.fst).Nodup) :
    lastValue? name entries = some value ↔ (name, value) ∈ entries := by
  rw [lastValue?, Associations.lookup_reverse distinct,
    Associations.lookup_eq_some_iff_mem distinct]

/-- The fields with a name, and no others, set a part of the record, to what is read
from their value. -/
structure Owns {Part : Type} (fields : List (Field Record)) (name : String)
    (part : Record → Part) (readPart : Value → Except ReadError Part) : Prop where
  present : ∃ field ∈ fields, field.name = name
  sets : ∀ field ∈ fields, field.name = name → ∀ value set, field.read value = .ok set →
    ∀ record, readPart value = .ok (part (set record))
  keeps : ∀ field ∈ fields, field.name ≠ name → ∀ value set, field.read value = .ok set →
    ∀ record, part (set record) = part record

/-- A field has another name and keeps a part of the record, whatever it sets. -/
structure Spares {Part : Type} (name : String) (part : Record → Part) (field : Field Record) :
    Prop where
  other : field.name ≠ name
  keeps : ∀ value set, field.read value = .ok set →
    ∀ record, part (set record) = part record

theorem spares_of_put {Part Held : Type} {part : Record → Part} {name other : String}
    (different : other ≠ name) (readHeld : Value → Except ReadError Held)
    {put : Held → Record → Record}
    (keeps : ∀ held record, part (put held record) = part record) :
    Spares name part ⟨other, fun value => readHeld value >>= fun held => .ok (put held)⟩ where
  other := different
  keeps := by
    intro value set result record
    obtain ⟨held, _, equality⟩ := bind_eq_ok_iff.mp result
    cases equality
    exact keeps held record

namespace Owns

variable {Part : Type} {name : String} {part : Record → Part}
  {readPart : Value → Except ReadError Part}

/-- A field owns a part if it puts there what it reads and the others spare the part. -/
theorem of_put {Held : Type} {readHeld : Value → Except ReadError Held}
    {put : Held → Record → Record} (before after : List (Field Record))
    (puts : ∀ value held record, readHeld value = .ok held →
      readPart value = .ok (part (put held record)))
    (others : (before ++ after).Forall (Spares name part)) :
    Owns
      (before ++ ⟨name, fun value => readHeld value >>= fun held => .ok (put held)⟩ :: after)
      name part readPart := by
  have each := List.forall_iff_forall_mem.mp others
  have split : ∀ field ∈ before ++ (⟨name, fun value => readHeld value >>= fun held =>
        .ok (put held)⟩ : Field Record) :: after,
      field = ⟨name, fun value => readHeld value >>= fun held => .ok (put held)⟩ ∨
        Spares name part field := by
    intro field inside
    rcases List.mem_append.mp inside with early | rest
    · exact .inr (each field (List.mem_append_left after early))
    · rcases List.mem_cons.mp rest with here | late
      · exact .inl here
      · exact .inr (each field (List.mem_append_right before late))
  constructor
  · exact ⟨_, List.mem_append_right before List.mem_cons_self, rfl⟩
  · intro field inside named value set result record
    rcases split field inside with rfl | spares
    · obtain ⟨held, read, equality⟩ := bind_eq_ok_iff.mp result
      cases equality
      exact puts value held record read
    · exact absurd named spares.other
  · intro field inside other
    rcases split field inside with rfl | spares
    · exact absurd rfl other
    · exact spares.keeps

theorem part_of_readEntry (owns : Owns fields name part readPart)
    {entry : String × Value} (result : readEntry fields record entry = .ok changed) :
    if name = entry.1 then readPart entry.2 = .ok (part changed)
    else part changed = part record := by
  unfold readEntry at result
  split at result
  · rename_i unnamed
    cases result
    have other : name ≠ entry.1 := by
      rintro rfl
      obtain ⟨field, inside, named⟩ := owns.present
      have refused := List.find?_eq_none.mp unnamed field inside
      simp [named] at refused
    rw [if_neg other]
  · rename_i field found
    have inside := List.mem_of_find?_eq_some found
    have named : field.name = entry.1 := by simpa using List.find?_some found
    obtain ⟨set, read, equality⟩ := bind_eq_ok_iff.mp result
    cases equality
    split
    · rename_i same
      exact owns.sets field inside (named.trans same.symm) _ set read record
    · rename_i different
      refine owns.keeps field inside ?_ _ set read record
      intro same
      exact different (same.symm.trans named)

/-- What a record holds in the part is read from the last entry with the name. -/
theorem part_of_readEntries (owns : Owns fields name part readPart)
    {entries : Entries} (result : readEntries fields record entries = .ok changed) :
    match lastValue? name entries with
    | none => part changed = part record
    | some value => readPart value = .ok (part changed) := by
  induction entries using List.reverseRecOn generalizing changed with
  | nil =>
      cases result
      rfl
  | append_singleton entries entry induction =>
      rw [readEntries, List.foldlM_append] at result
      obtain ⟨middle, first, last⟩ := bind_eq_ok_iff.mp result
      rw [List.foldlM_cons] at last
      obtain ⟨final, step, equality⟩ := bind_eq_ok_iff.mp last
      cases equality
      have set := owns.part_of_readEntry step
      rw [lastValue?_concat]
      by_cases same : name = entry.1
      · rw [if_pos same] at set ⊢
        exact set
      · rw [if_neg same] at set ⊢
        rw [set]
        exact induction first

/-- A part that is there once it is set is missing when no entry has its name. -/
theorem eq_none_iff {Held : Type} {readHeld : Value → Except ReadError Held}
    {part : Record → Option Held}
    (owns : Owns fields name part fun value => (readHeld value).map some)
    (missing : part record = none) {entries : Entries}
    (result : readEntries fields record entries = .ok changed) :
    part changed = none ↔ name ∉ entries.map Prod.fst := by
  have set := owns.part_of_readEntries result
  rw [← lastValue?_eq_none_iff]
  cases last : lastValue? name entries with
  | none =>
      rw [last] at set
      simp [set, missing]
  | some value =>
      rw [last] at set
      obtain ⟨held, _, put⟩ := map_eq_ok_iff.mp set
      simp [← put]

end Owns

/-! ## What is refused -/

/-- The field of an entry does not read its value. -/
def Misreads (fields : List (Field Record)) (entry : String × Value) : Prop :=
  ∃ field cause, fields.find? (fun field => field.name = entry.1) = some field ∧
    field.read entry.2 = .error cause

/-- The same with the cause. -/
def MisreadsFor (fields : List (Field Record)) (cause : ReadError) (entry : String × Value) :
    Prop :=
  ∃ field, fields.find? (fun field => field.name = entry.1) = some field ∧
    field.read entry.2 = .error cause

theorem misreads_iff_exists {entry : String × Value} :
    Misreads fields entry ↔ ∃ cause, MisreadsFor fields cause entry :=
  exists_comm

theorem readEntry_eq_error_iff {entry : String × Value} {cause : ReadError} :
    readEntry fields record entry = .error cause ↔ MisreadsFor fields cause entry := by
  unfold readEntry MisreadsFor
  cases fields.find? fun field => field.name = entry.1 with
  | none => simp
  | some field =>
      constructor
      · intro result
        exact ⟨field, rfl, bind_ok_eq_error_iff.mp result⟩
      · rintro ⟨same, equality, failed⟩
        cases equality
        exact bind_ok_eq_error_iff.mpr failed

theorem exists_readEntry_eq_ok_iff {entry : String × Value} :
    (∃ changed, readEntry fields record entry = .ok changed) ↔
      ∀ cause, ¬ MisreadsFor fields cause entry := by
  have refused (cause : ReadError) :
      readEntry fields record entry = .error cause ↔ MisreadsFor fields cause entry :=
    readEntry_eq_error_iff
  simp only [← refused]
  cases readEntry fields record entry with
  | ok changed => simp
  | error cause => simp

/-- The cause is that of the first entry that is misread, whatever stands behind it. -/
theorem readEntries_eq_error_iff (record : Record) {entries : Entries} {cause : ReadError} :
    readEntries fields record entries = .error cause ↔
      FirstFault (MisreadsFor fields) cause entries := by
  induction entries generalizing record with
  | nil => simp [not_firstFault_nil, readEntries, pure, Except.pure]
  | cons entry entries induction =>
      have step : readEntries fields record (entry :: entries) =
          readEntry fields record entry >>= fun middle => readEntries fields middle entries :=
        List.foldlM_cons
      rw [step, bind_eq_error_iff, firstFault_cons_iff, readEntry_eq_error_iff]
      simp only [induction, exists_and_right, exists_readEntry_eq_ok_iff]

theorem readEntries_fails_iff (record : Record) {entries : Entries} :
    (∃ cause, readEntries fields record entries = .error cause) ↔
      ∃ entry ∈ entries, Misreads fields entry := by
  simp only [readEntries_eq_error_iff, misreads_iff_exists]
  exact exists_firstFault_iff

/-! ## The same fields with other errors -/

theorem readEntry_cons (field : Field Record) (fields : List (Field Record))
    (record : Record) (entry : String × Value) :
    readEntry (field :: fields) record entry =
      if field.name = entry.1 then
        (do
          let set ← field.read entry.2
          .ok (set record))
      else readEntry fields record entry := by
  by_cases named : field.name = entry.1
  · simp [readEntry, named]
  · simp [readEntry, named]

/-- Two lists of fields that read an entry alike, up to a translation of the errors. -/
def Alike (translate : ReadError → ReadError) (entry : String × Value) :
    List (Field Record) → List (Field Record) → Prop :=
  List.Forall₂ fun field other =>
    other.name = field.name ∧
      (field.name = entry.1 →
        other.read entry.2 = (field.read entry.2).mapError translate)

variable {translate : ReadError → ReadError} {others : List (Field Record)}

theorem readEntry_of_alike {entry : String × Value}
    (alike : Alike translate entry fields others) (record : Record) :
    readEntry others record entry =
      (readEntry fields record entry).mapError translate := by
  induction alike with
  | nil => rfl
  | cons head _ induction =>
      obtain ⟨sameName, reads⟩ := head
      rw [readEntry_cons, readEntry_cons, sameName]
      split
      · rename_i named
        rw [reads named, mapError_bind]
        rfl
      · exact induction

theorem readEntries_of_alike {entries : Entries}
    (alike : ∀ entry ∈ entries, Alike translate entry fields others) (record : Record) :
    readEntries others record entries =
      (readEntries fields record entries).mapError translate := by
  induction entries generalizing record with
  | nil => rfl
  | cons entry entries induction =>
      have first := alike entry List.mem_cons_self
      have rest := induction fun later inside => alike later (List.mem_cons_of_mem entry inside)
      rw [readEntries, readEntries, List.foldlM_cons, List.foldlM_cons, mapError_bind,
        readEntry_of_alike first]
      congr 1
      funext changed
      exact rest changed

/-! ## Arrays as tables -/

/-- The entries under which a value is read as a record with these fields. -/
def entriesOf (fields : List (Field Record)) : Value → Entries
  | .table entries => entries
  | .array items => (fields.map name).zip items
  | .datetime value => [(datetimeMarker, .string value.text)]
  | _ => []

theorem find?_name {before after : List (Field Record)} {field : Field Record}
    (distinct : ((before ++ field :: after).map name).Nodup) :
    (before ++ field :: after).find? (fun other => other.name = field.name) =
      some field := by
  rw [List.map_append, List.map_cons] at distinct
  have absent : before.find? (fun other => other.name = field.name) = none := by
    rw [List.find?_eq_none]
    intro other inside
    have different : other.name ≠ field.name :=
      List.nodup_append.mp distinct |>.2.2 other.name (List.mem_map_of_mem inside)
        field.name List.mem_cons_self
    simpa using different
  rw [List.find?_append, absent, Option.none_or,
    List.find?_cons_of_pos (by simp)]

theorem readItems_eq_readEntries_after (before after : List (Field Record))
    (distinct : ((before ++ after).map name).Nodup) (record : Record)
    (items : List Value) :
    readItems record after items =
      readEntries (before ++ after) record ((after.map name).zip items) := by
  induction after generalizing before record items with
  | nil => cases items <;> rfl
  | cons field after induction =>
      cases items with
      | nil => rfl
      | cons item items =>
          have split : before ++ field :: after = (before ++ [field]) ++ after := by
            simp
          have step : readEntry (before ++ field :: after) record (field.name, item) =
              (do
                let set ← field.read item
                .ok (set record)) := by
            simp only [readEntry, find?_name distinct]
          rw [List.map_cons, List.zip_cons_cons, readEntries, List.foldlM_cons, step,
            readItems]
          cases field.read item with
          | error cause => rfl
          | ok set =>
              rw [split] at distinct ⊢
              exact induction (before ++ [field]) distinct (set record) items

/-- Reading an array is reading the table that gives its items to the fields in the
order of their declaration. -/
theorem readItems_eq_readEntries (fields : List (Field Record))
    (distinct : (fields.map name).Nodup) (record : Record) (items : List Value) :
    readItems record fields items =
      readEntries fields record ((fields.map name).zip items) :=
  readItems_eq_readEntries_after [] fields distinct record items

theorem keys_zip {Item : Type} (names : List String) (items : List Item) :
    (names.zip items).map Prod.fst = names.take items.length := by
  induction names generalizing items with
  | nil => simp
  | cons name names induction =>
      cases items with
      | nil => rfl
      | cons item items => exact congrArg (name :: ·) (induction items)

/-- No item of an array belongs to a name whose place is beyond its end. -/
theorem not_mem_keys_zip {names : List String} (distinct : names.Nodup) {place : Nat}
    {name : String} (placed : names[place]? = some name) {items : List Value}
    (short : items.length ≤ place) : name ∉ (names.zip items).map Prod.fst := by
  intro inside
  rw [keys_zip] at inside
  have behind : name ∈ names.drop place := by
    apply List.mem_of_getElem? (i := 0)
    rwa [List.getElem?_drop]
  exact List.disjoint_take_drop distinct short inside behind

/-! ## What is no record -/

/-- A value is misread as a record: it stands for none, or an entry of it is misread. -/
def MisreadIn (fields : List (Field Record)) (value : Value) : Prop :=
  ¬ value.IsRecord ∨ ∃ entry ∈ entriesOf fields value, Misreads fields entry

theorem readRecord_fails_iff {name : String} {initial : Record} {value : Value}
    (distinct : (fields.map Field.name).Nodup) :
    (∃ cause, readRecord name fields initial value = .error cause) ↔
      MisreadIn fields value := by
  unfold readRecord MisreadIn entriesOf Value.IsRecord
  cases value with
  | table entries =>
      simp only [not_true_eq_false, false_or]
      exact readEntries_fails_iff _
  | datetime datetime =>
      simp only [not_true_eq_false, false_or]
      exact readEntries_fails_iff _
  | array items =>
      simp only [not_true_eq_false, false_or]
      rw [readItems_eq_readEntries fields distinct]
      exact readEntries_fails_iff _
  | null => simp
  | boolean => simp
  | integer => simp
  | float => simp
  | string => simp

end Field

end UserRegistry
