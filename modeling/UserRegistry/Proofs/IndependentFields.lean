import Mathlib.Data.List.Pairwise
import UserRegistry.Proofs.ConfigReading

/-!
# Fields that are set independently

What one field of a record sets, no other field of it sets.  Entries with different names
can therefore be read in any order, and an entry that sets a field to what it is anyway
can as well be left out.  Which record is read follows from what each entry sets by
itself.
-/

namespace UserRegistry

namespace Field

variable {Record : Type} {record changed : Record} {fields : List (Field Record)}

/-! ## What an entry sets -/

/-- What an entry changes in whatever record it is read into. -/
def setting (fields : List (Field Record)) (entry : String × Value) :
    Except ReadError (Record → Record) :=
  match fields.find? fun field => field.name = entry.1 with
  | none => .ok id
  | some field => field.read entry.2

theorem readEntry_eq_bind (fields : List (Field Record)) (record : Record)
    (entry : String × Value) :
    readEntry fields record entry =
      setting fields entry >>= fun set => .ok (set record) := by
  unfold readEntry setting
  cases fields.find? fun field => field.name = entry.1 with
  | none => rfl
  | some field => rfl

theorem readEntries_cons (fields : List (Field Record)) (record : Record)
    (entry : String × Value) (entries : Entries) :
    readEntries fields record (entry :: entries) =
      setting fields entry >>= fun set => readEntries fields (set record) entries := by
  rw [readEntries, List.foldlM_cons, readEntry_eq_bind]
  cases setting fields entry with
  | error cause => rfl
  | ok set => rfl

theorem readEntries_append (fields : List (Field Record)) (record : Record)
    (before after : Entries) :
    readEntries fields record (before ++ after) =
      readEntries fields record before >>= fun middle => readEntries fields middle after :=
  List.foldlM_append

theorem setting_of_unknown {entry : String × Value}
    (unknown : entry.1 ∉ fields.map Field.name) : setting fields entry = .ok id := by
  have absent : fields.find? (fun field => field.name = entry.1) = none := by
    apply List.find?_eq_none.mpr
    intro field inside named
    apply unknown
    rw [← of_decide_eq_true named]
    exact List.mem_map_of_mem inside
  rw [setting, absent]

/-! ## Settings that commute -/

/-- What two fields set they may set in either order. -/
def Commutes (first second : Field Record) : Prop :=
  ∀ value other set put, first.read value = .ok set → second.read other = .ok put →
    ∀ record, set (put record) = put (set record)

theorem commutes_of_put {First Second : Type} {name other : String}
    {readFirst : Value → Except ReadError First} {putFirst : First → Record → Record}
    {readSecond : Value → Except ReadError Second} {putSecond : Second → Record → Record}
    (commute : ∀ held kept record,
      putFirst held (putSecond kept record) = putSecond kept (putFirst held record)) :
    Commutes ⟨name, fun value => readFirst value >>= fun held => .ok (putFirst held)⟩
      ⟨other, fun value => readSecond value >>= fun held => .ok (putSecond held)⟩ := by
  intro value otherValue set put result otherResult record
  obtain ⟨held, _, equality⟩ := bind_eq_ok_iff.mp result
  obtain ⟨kept, _, otherEquality⟩ := bind_eq_ok_iff.mp otherResult
  cases equality
  cases otherEquality
  exact commute held kept record

instance : Std.Symm (@Commutes Record) where
  symm _ _ commute value other set put result otherResult record :=
    (commute other value put set otherResult result record).symm

/-- Any two fields of a record commute. -/
def Independent (fields : List (Field Record)) : Prop :=
  fields.Pairwise Commutes

theorem Independent.setting_comm (independent : Independent fields)
    {first second : String × Value} (different : first.1 ≠ second.1)
    {set put : Record → Record} (sets : setting fields first = .ok set)
    (puts : setting fields second = .ok put) (record : Record) :
    set (put record) = put (set record) := by
  unfold setting at sets puts
  split at sets
  · cases sets
    rfl
  · rename_i field found
    split at puts
    · cases puts
      rfl
    · rename_i other otherFound
      have named : field.name = first.1 := by simpa using List.find?_some found
      have otherNamed : other.name = second.1 := by simpa using List.find?_some otherFound
      have apart : field ≠ other := by
        intro same
        apply different
        rw [← named, ← otherNamed, same]
      have commute : Commutes field other :=
        List.Pairwise.forall independent (List.mem_of_find?_eq_some found)
          (List.mem_of_find?_eq_some otherFound) apart
      exact commute _ _ set put sets puts record

theorem Independent.readEntries_swap (independent : Independent fields)
    {first second : String × Value} (different : first.1 ≠ second.1) (entries : Entries)
    (result : readEntries fields record (first :: second :: entries) = .ok changed) :
    readEntries fields record (second :: first :: entries) = .ok changed := by
  rw [readEntries_cons] at result
  obtain ⟨set, sets, inner⟩ := bind_eq_ok_iff.mp result
  rw [readEntries_cons] at inner
  obtain ⟨put, puts, rest⟩ := bind_eq_ok_iff.mp inner
  rw [readEntries_cons]
  apply bind_eq_ok_iff.mpr
  refine ⟨put, puts, ?_⟩
  rw [readEntries_cons]
  apply bind_eq_ok_iff.mpr
  refine ⟨set, sets, ?_⟩
  rw [independent.setting_comm different sets puts]
  exact rest

/-- While no name repeats, the order of the entries is of no importance to the record. -/
theorem Independent.readEntries_perm (independent : Independent fields)
    {entries permuted : Entries} (same : entries.Perm permuted)
    (distinct : (entries.map Prod.fst).Nodup)
    (result : readEntries fields record entries = .ok changed) :
    readEntries fields record permuted = .ok changed := by
  induction same generalizing record with
  | nil => exact result
  | cons entry _ induction =>
      rw [List.map_cons, List.nodup_cons] at distinct
      rw [readEntries_cons] at result ⊢
      obtain ⟨set, sets, rest⟩ := bind_eq_ok_iff.mp result
      apply bind_eq_ok_iff.mpr
      exact ⟨set, sets, induction distinct.2 rest⟩
  | swap first second entries =>
      have different : second.1 ≠ first.1 := by
        intro equality
        simp [equality] at distinct
      exact independent.readEntries_swap different entries result
  | trans earlier _ firstInduction secondInduction =>
      apply secondInduction ((earlier.map Prod.fst).nodup_iff.mp distinct)
      exact firstInduction distinct result

theorem Independent.concur_of_perm (independent : Independent fields)
    {entries permuted : Entries} (same : entries.Perm permuted)
    (distinct : (entries.map Prod.fst).Nodup) (record : Record) :
    Concur (readEntries fields record entries) (readEntries fields record permuted) := by
  intro changed
  constructor
  · exact independent.readEntries_perm same distinct
  · exact independent.readEntries_perm same.symm ((same.map Prod.fst).nodup_iff.mp distinct)

/-! ## Entries that set nothing new -/

/-- What an entry leaves as it is, entries with other names do not change: it leaves the
record as it is behind them as well. -/
theorem Independent.setting_eq_self (independent : Independent fields)
    {entry : String × Value} {set : Record → Record}
    (sets : setting fields entry = .ok set) (unchanged : set record = record)
    {before : Entries} (absent : entry.1 ∉ before.map Prod.fst)
    (result : readEntries fields record before = .ok changed) : set changed = changed := by
  induction before generalizing record with
  | nil =>
      cases result
      exact unchanged
  | cons earlier before induction =>
      rw [List.map_cons, List.mem_cons, not_or] at absent
      rw [readEntries_cons] at result
      obtain ⟨put, puts, rest⟩ := bind_eq_ok_iff.mp result
      apply induction _ absent.2 rest
      rw [independent.setting_comm absent.1 sets puts, unchanged]

/-- An entry that sets nothing new where it stands may be left out. -/
theorem readEntries_insert {entry : String × Value} {set : Record → Record}
    (sets : setting fields entry = .ok set) {before : Entries}
    (unchanged : ∀ changed, readEntries fields record before = .ok changed →
      set changed = changed) (after : Entries) :
    readEntries fields record (before ++ entry :: after) =
      readEntries fields record (before ++ after) := by
  rw [readEntries_append, readEntries_append]
  cases result : readEntries fields record before with
  | error cause => rfl
  | ok changed =>
      change readEntries fields changed (entry :: after) = readEntries fields changed after
      rw [readEntries_cons, sets]
      change readEntries fields (set changed) after = _
      rw [unchanged changed result]

end Field

/-! ## The records of a configuration -/

theorem Logging.fields_independent : Field.Independent fields := by
  simp only [Field.Independent, fields, List.pairwise_cons, List.forall_mem_cons,
    List.not_mem_nil, false_imp_iff, implies_true, List.Pairwise.nil, and_true]
  refine ⟨⟨?_, ?_⟩, ?_⟩
  all_goals exact Field.commutes_of_put fun _ _ _ => rfl

theorem Memory.fields_independent : Field.Independent fields :=
  List.pairwise_singleton _ _

theorem Config.fields_independent : Field.Independent fields := by
  simp only [Field.Independent, fields, List.pairwise_cons, List.forall_mem_cons,
    List.not_mem_nil, false_imp_iff, implies_true, List.Pairwise.nil, and_true]
  refine ⟨⟨?_, ?_⟩, ?_⟩
  all_goals exact Field.commutes_of_put fun _ _ _ => rfl

theorem Seed.fields_independent (format : Format) : Field.Independent (fields format) := by
  simp only [Field.Independent, fields, List.pairwise_cons, List.forall_mem_cons,
    List.not_mem_nil, false_imp_iff, implies_true, List.Pairwise.nil, and_true]
  refine ⟨⟨?_, ?_, ?_⟩, ⟨?_, ?_⟩, ?_⟩
  all_goals exact Field.commutes_of_put fun _ _ _ => rfl

end UserRegistry
