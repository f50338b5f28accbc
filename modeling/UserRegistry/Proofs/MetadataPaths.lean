import UserRegistry.Proofs.DatesInMetadata
import UserRegistry.Proofs.DistinctKeys

/-!
# Paths into metadata

A table of a configuration is read as metadata branch by branch: whatever stands at a
path of keys and places in the one stands at the same path in the other, converted by
itself.  Only floats that are not finite become `null`.
-/

namespace UserRegistry

/-- One step into a value: to what a table binds a key to, or to a place in an array. -/
inductive Branch where
  | key (name : String)
  | place (n : Nat)

namespace Value

def branch? : Value → Branch → Option Value
  | .table entries, .key name => entries.lookup name
  | .array items, .place n => items[n]?
  | _, _ => none

/-- The value at the end of a path. -/
def at? (value : Value) (path : List Branch) : Option Value :=
  path.foldlM branch? value

variable {value inner : Value} {branch : Branch}

theorem mem_of_branch? (found : value.branch? branch = some inner) :
    (∃ items, value = .array items ∧ inner ∈ items) ∨
      ∃ entries, value = .table entries ∧ ∃ name, (name, inner) ∈ entries := by
  unfold branch? at found
  split at found
  · exact .inr ⟨_, rfl, _, Associations.mem_of_lookup found⟩
  · exact .inl ⟨_, rfl, List.mem_of_getElem? found⟩
  · contradiction

theorem Distinct.of_branch? (distinct : value.Distinct)
    (found : value.branch? branch = some inner) : inner.Distinct := by
  rcases mem_of_branch? found with ⟨items, rfl, inside⟩ | ⟨entries, rfl, name, inside⟩
  · cases distinct with
    | plain plain => contradiction
    | array each => exact each inner inside
  · cases distinct with
    | plain plain => contradiction
    | table _ each => exact each (name, inner) inside

theorem names_of_branch?_subset (found : value.branch? branch = some inner) :
    inner.names ⊆ value.names := by
  intro key within
  rcases mem_of_branch? found with ⟨items, rfl, inside⟩ | ⟨entries, rfl, name, inside⟩
  · exact mem_itemNames_iff.mpr ⟨inner, inside, within⟩
  · exact mem_entryNames_iff.mpr ⟨(name, inner), inside, .inr within⟩

theorem Distinct.keys_nodup {entries : Entries} (distinct : Distinct (.table entries)) :
    (entries.map Prod.fst).Nodup := by
  cases distinct with
  | plain plain => contradiction
  | table keys _ => exact keys

/-- A value of the configuration language: no `null`, integers of 64 bits with sign, and
tables with distinct keys. -/
inductive Configurable : Value → Prop where
  | plain {value : Value} : value.Plain → value ≠ .null →
      (∀ n, value = .integer n → -Numeral.signedBound ≤ n ∧ n < Numeral.signedBound) →
      Configurable value
  | array {items : List Value} :
      (∀ item ∈ items, Configurable item) → Configurable (.array items)
  | table {entries : Entries} :
      (entries.map Prod.fst).Nodup → (∀ entry ∈ entries, Configurable entry.2) →
      Configurable (.table entries)

theorem Configurable.distinct {value : Value} (configurable : value.Configurable) :
    value.Distinct := by
  induction configurable with
  | plain plain => exact .plain plain
  | array _ induction => exact .array induction
  | table keys _ induction => exact .table keys induction

end Value

namespace Json

def branch? : Json → Branch → Option Json
  | .object members, .key name => Members.get? name members
  | .array items, .place n => items[n]?
  | _, _ => none

/-- The value at the end of a path. -/
def at? (value : Json) (path : List Branch) : Option Json :=
  path.foldlM branch? value

end Json

def Binary64.IsFinite (number : Binary64) : Prop :=
  ∃ finite, number = .finite finite

/-- What a value is read as, itself and not what is inside it: a scalar as the same
scalar, a date-time as its text, an array as one of the same length, and a table as an
object that has its keys, each once and in order. -/
inductive Value.ReadsAs : Value → Json → Prop where
  | boolean (value : Bool) : ReadsAs (.boolean value) (.boolean value)
  | integer (value : Int) : ReadsAs (.integer value) (.integer value)
  | string (text : String) : ReadsAs (.string text) (.string text)
  | datetime (value : Datetime) : ReadsAs (.datetime value) (.string value.text)
  | finite (number : Finite64) : ReadsAs (.float (.finite number)) (.float number)
  | notFinite {number : Binary64} : ¬ number.IsFinite → ReadsAs (.float number) .null
  | array {items : List Value} {results : List Json} :
      results.length = items.length → ReadsAs (.array items) (.array results)
  | table {entries : Entries} {members : Json.Members} :
      (members.map Prod.fst).Perm (entries.map Prod.fst) → members.Ordered →
      ReadsAs (.table entries) (.object members)

theorem Value.ReadsAs.eq_null_iff {value : Value} {result : Json}
    (reads : value.ReadsAs result) :
    result = .null ↔ ∃ number, value = .float number ∧ ¬ number.IsFinite := by
  cases reads with
  | notFinite infinite => exact ⟨fun _ => ⟨_, rfl, infinite⟩, fun _ => rfl⟩
  | finite number => simp [Binary64.IsFinite]
  | _ => simp

namespace Metadata

variable {format : Format}

/-! ## What is inside a value -/

theorem readItems_eq_mapM (items : List Value) :
    readItems format items = items.mapM (readValue format) := by
  induction items with
  | nil => rfl
  | cons item items induction =>
      rw [readItems, induction, List.mapM_cons]
      rfl

theorem readEntries_eq_mapM (entries : Entries) :
    readEntries format entries =
      entries.mapM fun entry => (readValue format entry.2).map (entry.1, ·) := by
  induction entries with
  | nil => rfl
  | cons entry entries induction =>
      rw [readEntries, induction, List.mapM_cons]
      cases readValue format entry.2 <;> rfl

theorem rel_getElem?_of_readItems {items : List Value} {results : List Json}
    (read : readItems format items = .ok results) (n : Nat) :
    Option.Rel (fun item result => readValue format item = .ok result)
      items[n]? results[n]? := by
  rw [readItems_eq_mapM, mapM_eq_ok_iff] at read
  induction read generalizing n with
  | nil => exact .none
  | cons head _ induction =>
      cases n with
      | zero => exact .some head
      | succ n => simpa using induction n

theorem forall₂_of_readEntries {entries : Entries} {members : Json.Members}
    (read : readEntries format entries = .ok members) :
    List.Forall₂
      (fun entry member => entry.1 = member.1 ∧ readValue format entry.2 = .ok member.2)
      entries members := by
  rw [readEntries_eq_mapM, mapM_eq_ok_iff] at read
  refine read.imp ?_
  intro entry member memberRead
  obtain ⟨result, valueRead, rfl⟩ := map_eq_ok_iff.mp memberRead
  exact ⟨rfl, valueRead⟩

theorem map_fst_of_readEntries {entries : Entries} {members : Json.Members}
    (read : readEntries format entries = .ok members) :
    members.map Prod.fst = entries.map Prod.fst := by
  have related := forall₂_of_readEntries read
  clear read
  induction related with
  | nil => rfl
  | cons head _ induction => rw [List.map_cons, List.map_cons, head.1, induction]

variable {value : Value} {result : Json}

theorem readsAs_of_readValue (distinct : value.Distinct)
    (unmarked : datetimeMarker ∉ value.names)
    (read : readValue format value = .ok result) : value.ReadsAs result := by
  cases value with
  | null => contradiction
  | boolean value =>
      cases read
      exact .boolean value
  | integer value =>
      rw [readValue] at read
      split at read
      · cases read
        exact .integer value
      · contradiction
  | float number =>
      cases number with
      | finite number =>
          cases read
          exact .finite number
      | infinite negative =>
          cases read
          exact .notFinite (by simp [Binary64.IsFinite])
      | nan =>
          cases read
          exact .notFinite (by simp [Binary64.IsFinite])
  | string text =>
      cases read
      exact .string text
  | datetime value =>
      cases read
      exact .datetime value
  | array items =>
      obtain ⟨results, items, rfl⟩ := map_eq_ok_iff.mp read
      rw [readItems_eq_mapM, mapM_eq_ok_iff] at items
      exact .array items.length_eq.symm
  | table entries =>
      rw [readValue_table (isMarked_eq_false unmarked)] at read
      obtain ⟨members, entriesRead, rfl⟩ := map_eq_ok_iff.mp read
      have sameKeys := map_fst_of_readEntries entriesRead
      refine .table ?_ (Json.Members.ordered_ofEntries members)
      have keys := distinct.keys_nodup
      rw [← sameKeys] at keys ⊢
      exact (Json.Members.ofEntries_perm keys).map Prod.fst

/-- Whatever stands on a branch is read by itself. -/
theorem rel_branch_of_readValue (distinct : value.Distinct)
    (unmarked : datetimeMarker ∉ value.names)
    (read : readValue format value = .ok result) (branch : Branch) :
    Option.Rel (fun inner found => readValue format inner = .ok found)
      (value.branch? branch) (result.branch? branch) := by
  cases readsAs_of_readValue distinct unmarked read with
  | array _ =>
      cases branch with
      | key name => exact .none
      | place n =>
          obtain ⟨results, items, equality⟩ := map_eq_ok_iff.mp read
          cases equality
          exact rel_getElem?_of_readItems items n
  | @table entries members _ _ =>
      cases branch with
      | place n => exact .none
      | key name =>
          rw [readValue_table (isMarked_eq_false unmarked)] at read
          obtain ⟨found, entriesRead, equality⟩ := map_eq_ok_iff.mp read
          cases equality
          have keys : (found.map Prod.fst).Nodup := by
            rw [map_fst_of_readEntries entriesRead]
            exact distinct.keys_nodup
          rw [Value.branch?, Json.branch?, Json.Members.get?_ofEntries_of_distinct keys]
          exact Associations.rel_lookup (forall₂_of_readEntries entriesRead) name
  | boolean => cases branch <;> exact .none
  | integer => cases branch <;> exact .none
  | string => cases branch <;> exact .none
  | datetime => cases branch <;> exact .none
  | finite => cases branch <;> exact .none
  | notFinite => cases branch <;> exact .none

/-! ## What is at the end of a path -/

theorem rel_at_of_readValue (distinct : value.Distinct)
    (unmarked : datetimeMarker ∉ value.names)
    (read : readValue format value = .ok result) (path : List Branch) :
    Option.Rel Value.ReadsAs (value.at? path) (result.at? path) := by
  induction path generalizing value result with
  | nil => exact .some (readsAs_of_readValue distinct unmarked read)
  | cons branch path induction =>
      have step := rel_branch_of_readValue distinct unmarked read branch
      rw [Value.at?, Json.at?, List.foldlM_cons, List.foldlM_cons]
      generalize result.branch? branch = next at step ⊢
      cases inner : value.branch? branch with
      | none =>
          rw [inner] at step
          cases step
          exact .none
      | some inside =>
          rw [inner] at step
          cases step with
          | some innerRead =>
              exact induction (distinct.of_branch? inner)
                (fun within => unmarked (Value.names_of_branch?_subset inner within))
                innerRead

/-! ## What is read at all -/

/-- No value of the configuration language is refused. -/
theorem exists_readValue (configurable : value.Configurable)
    (unmarked : datetimeMarker ∉ value.names) :
    ∃ result, readValue format value = .ok result := by
  induction configurable with
  | @plain value plain notNull bounds =>
      cases value with
      | null => exact absurd rfl notNull
      | integer n => exact ⟨.integer n, if_pos (bounds n rfl).2⟩
      | float number => cases number <;> exact ⟨_, rfl⟩
      | boolean => exact ⟨_, rfl⟩
      | string => exact ⟨_, rfl⟩
      | datetime => exact ⟨_, rfl⟩
      | array => contradiction
      | table => contradiction
  | @array items _ induction =>
      have readable : ∀ item ∈ items, ∃ found, readValue format item = .ok found := by
        intro item inside
        refine induction item inside fun within => unmarked ?_
        exact Value.mem_itemNames_iff.mpr ⟨item, inside, within⟩
      obtain ⟨results, read⟩ := exists_mapM_eq_ok readable
      exact ⟨.array results,
        map_eq_ok_iff.mpr ⟨results, (readItems_eq_mapM items).trans read, rfl⟩⟩
  | @table entries _ _ induction =>
      have readable : ∀ entry ∈ entries, ∃ member,
          (readValue format entry.2).map (entry.1, ·) = .ok member := by
        intro entry inside
        obtain ⟨found, read⟩ := induction entry inside fun within =>
          unmarked (Value.mem_entryNames_iff.mpr ⟨entry, inside, .inr within⟩)
        exact ⟨(entry.1, found), map_eq_ok_iff.mpr ⟨found, read, rfl⟩⟩
      obtain ⟨members, read⟩ := exists_mapM_eq_ok readable
      rw [readValue_table (isMarked_eq_false unmarked)]
      exact ⟨_, map_eq_ok_iff.mpr ⟨members, (readEntries_eq_mapM entries).trans read, rfl⟩⟩

theorem readValue_table_eq_read (format : Format) {entries : Entries}
    (unmarked : isMarked entries = false) :
    readValue format (.table entries) = (read format (.table entries)).map .object := by
  rw [readValue_table unmarked, read]
  cases readEntries format entries <;> rfl

/-- Every table of the configuration language without the date-time marker counts as
metadata.  A path leads to a value in the one exactly when it does in the other, and to
the same scalar, the text of the date-time, an array as long or an object with the same
keys.  It leads to `null` exactly where the table has an infinite float or none at all. -/
theorem shape_of_read_table {entries : Entries}
    (configurable : Value.Configurable (.table entries))
    (unmarked : datetimeMarker ∉ Value.entryNames entries) :
    ∃ members, read .toml (.table entries) = .ok members ∧
      ∀ path,
        Option.Rel Value.ReadsAs ((Value.table entries).at? path)
          ((Json.object members).at? path) ∧
        ((Json.object members).at? path = some .null ↔
          ∃ number, (Value.table entries).at? path = some (.float number) ∧
            ¬ number.IsFinite) := by
  obtain ⟨result, valueRead⟩ := exists_readValue configurable unmarked
  have asTable := readValue_table_eq_read .toml (isMarked_eq_false unmarked)
  obtain ⟨members, tableRead, rfl⟩ := map_eq_ok_iff.mp (asTable.symm.trans valueRead)
  refine ⟨members, tableRead, fun path => ?_⟩
  have related := rel_at_of_readValue configurable.distinct unmarked valueRead path
  refine ⟨related, ?_⟩
  generalize (Value.table entries).at? path = there at related ⊢
  generalize (Json.object members).at? path = here at related ⊢
  cases related with
  | none => simp
  | some reads => simpa using reads.eq_null_iff

/-- A table with its keys out of order, an array of two kinds of values and a table
inside it. -/
def unsortedTable : Entries :=
  [ ("z", .array [.integer (-3),
      .table [("not", .float .nan), ("day", .datetime (.date ⟨1979, 5, 27⟩))]]),
    ("", .float (.infinite true)) ]

theorem shape_of_unsortedTable :
    Value.Configurable (.table unsortedTable) ∧
      datetimeMarker ∉ Value.entryNames unsortedTable ∧
      ∃ members, read .toml (.table unsortedTable) = .ok members ∧
        members.map Prod.fst = ["", "z"] ∧
        (Json.object members).at? [.key "z", .place 1, .key "not"] = some .null ∧
        (Json.object members).at? [.key "z", .place 1, .key "day"] =
          some (.string "1979-05-27") ∧
        (Json.object members).at? [.key "z", .place 2] = none := by
  have configurable : Value.Configurable (.table unsortedTable) := by
    have scalar {value : Value} (plain : value.Plain) (notNull : value ≠ .null)
        (bounds : ∀ n, value = .integer n → n = -3) : value.Configurable := by
      refine .plain plain notNull fun n same => ?_
      rw [bounds n same]
      decide
    refine .table (by decide) ?_
    simp only [unsortedTable, List.forall_mem_cons, List.not_mem_nil, false_imp_iff,
      implies_true, and_true]
    refine ⟨.array ?_, scalar trivial (by simp) (by simp)⟩
    simp only [List.forall_mem_cons, List.not_mem_nil, false_imp_iff, implies_true, and_true]
    refine ⟨scalar trivial (by simp) (by simp [eq_comm]), .table (by decide) ?_⟩
    simp only [List.forall_mem_cons, List.not_mem_nil, false_imp_iff, implies_true, and_true]
    exact ⟨scalar trivial (by simp) (by simp), scalar trivial (by simp) (by simp)⟩
  have unmarked : datetimeMarker ∉ Value.entryNames unsortedTable := by decide
  obtain ⟨members, tableRead, shape⟩ := shape_of_read_table configurable unmarked
  refine ⟨configurable, unmarked, members, tableRead, ?_, ?_, ?_, ?_⟩
  · cases tableRead
    rfl
  · exact (shape _).2.mpr ⟨.nan, rfl, by simp [Binary64.IsFinite]⟩
  · have day := (shape [.key "z", .place 1, .key "day"]).1
    have stands : (Value.table unsortedTable).at? [.key "z", .place 1, .key "day"] =
        some (.datetime (.date ⟨1979, 5, 27⟩)) := rfl
    rw [stands] at day
    generalize (Json.object members).at? [.key "z", .place 1, .key "day"] = here at day ⊢
    cases day with
    | some reads =>
        cases reads
        rfl
  · have beyond := (shape [.key "z", .place 2]).1
    have nothing : (Value.table unsortedTable).at? [.key "z", .place 2] = none := rfl
    rw [nothing] at beyond
    generalize (Json.object members).at? [.key "z", .place 2] = here at beyond ⊢
    cases beyond
    rfl

end Metadata

end UserRegistry
