import UserRegistry.Proofs.ConfigAcceptance
import UserRegistry.Proofs.IndependentFields
import UserRegistry.Proofs.MetadataPaths

/-!
# The order of entries

The entries of any table of a document may be written in another order, at any depth: the
document reads as the same configuration, or fails to read as before.  Metadata is
brought into key order, and the fields of a record are set independently; only the items
of an array have their places.  Which of several faults is told does depend on the order.
-/

namespace UserRegistry

/-! ## Tables in another order -/

/-- The same value with the entries of tables in another order, at any depth. -/
inductive Value.Rearranged : Value → Value → Prop where
  | plain {value : Value} : value.Plain → Rearranged value value
  | array {items others : List Value} :
      List.Forall₂ Rearranged items others → Rearranged (.array items) (.array others)
  | table {entries middle others : Entries} : entries.Perm middle →
      middle.map Prod.fst = others.map Prod.fst →
      List.Forall₂ Rearranged (middle.map Prod.snd) (others.map Prod.snd) →
      Rearranged (.table entries) (.table others)

/-- No key comes twice in a table, and none is the date-time marker, at any depth. -/
structure Value.Orderly (value : Value) : Prop where
  distinct : value.Distinct
  unmarked : datetimeMarker ∉ value.names

namespace Value

variable {value other : Value} {items others : List Value} {entries : Entries}

theorem Orderly.of_item (orderly : Orderly (.array items)) {item : Value}
    (inside : item ∈ items) : item.Orderly := by
  constructor
  · cases orderly.distinct with
    | plain plain => contradiction
    | array each => exact each item inside
  · intro marked
    exact orderly.unmarked (mem_itemNames_iff.mpr ⟨item, inside, marked⟩)

theorem Orderly.of_entry (orderly : Orderly (.table entries)) {entry : String × Value}
    (inside : entry ∈ entries) : entry.2.Orderly := by
  constructor
  · cases orderly.distinct with
    | plain plain => contradiction
    | table _ each => exact each entry inside
  · intro marked
    exact orderly.unmarked (mem_entryNames_iff.mpr ⟨entry, inside, .inr marked⟩)

theorem Orderly.unmarked_keys (orderly : Orderly (.table entries)) :
    datetimeMarker ∉ entries.map Prod.fst := by
  intro inside
  obtain ⟨entry, present, marker⟩ := List.mem_map.mp inside
  exact orderly.unmarked (mem_entryNames_iff.mpr ⟨entry, present, .inl marker.symm⟩)

end Value

/-- What follows for each item of a list and its counterpart follows for all in turn. -/
theorem forall₂_imp_of_mem {First Last : Type} {related result : First → Last → Prop}
    {items : List First} {others : List Last}
    (each : ∀ item ∈ items, ∀ other, related item other → result item other)
    (same : List.Forall₂ related items others) : List.Forall₂ result items others := by
  apply ((List.forall₂_and_left _ _).mpr ⟨each, same⟩).imp
  intro item other both
  exact both.1 other both.2

theorem Value.forall₂_entries {related : Value → Value → Prop} {entries others : Entries}
    (names : entries.map Prod.fst = others.map Prod.fst)
    (values : List.Forall₂ related (entries.map Prod.snd) (others.map Prod.snd)) :
    List.Forall₂ (fun entry other => entry.1 = other.1 ∧ related entry.2 other.2)
      entries others := by
  induction entries generalizing others with
  | nil =>
      cases others with
      | nil => exact .nil
      | cons other others => contradiction
  | cons entry entries induction =>
      cases others with
      | nil => contradiction
      | cons other others =>
          obtain ⟨sameName, sameNames⟩ := List.cons.inj names
          cases values with
          | cons head rest => exact .cons ⟨sameName, head⟩ (induction sameNames rest)

/-! ## Metadata -/

namespace Metadata

variable {format : Format} {entries middle others : Entries}

theorem isMarked_eq_false_of_keys (unmarked : datetimeMarker ∉ entries.map Prod.fst) :
    isMarked entries = false := by
  cases entries with
  | nil => rfl
  | cons entry entries =>
      rw [List.map_cons, List.mem_cons, not_or] at unmarked
      exact beq_eq_false_iff_ne.mpr (Ne.symm unmarked.1)

/-- Reading entries in another order gives the members in another order, of which the
same object is made. -/
theorem read_of_perm (same : entries.Perm middle)
    (distinct : (entries.map Prod.fst).Nodup) {members : Json.Members}
    (result : read format (.table entries) = .ok members) :
    read format (.table middle) = .ok members := by
  obtain ⟨found, readable, rfl⟩ := map_eq_ok_iff.mp result
  have keys := map_fst_of_readEntries readable
  rw [readEntries_eq_mapM] at readable
  obtain ⟨permuted, permutedRead, samemembers⟩ := mapM_perm same readable
  apply map_eq_ok_iff.mpr
  refine ⟨permuted, (readEntries_eq_mapM middle).trans permutedRead, ?_⟩
  apply Eq.symm
  apply Json.Members.ofEntries_eq_of_perm samemembers.symm
  rw [keys]
  exact distinct

theorem concur_read_of_perm (same : entries.Perm middle)
    (distinct : (entries.map Prod.fst).Nodup) :
    Concur (read format (.table entries)) (read format (.table middle)) := by
  intro members
  constructor
  · exact read_of_perm same distinct
  · exact read_of_perm same.symm ((same.map Prod.fst).nodup_iff.mp distinct)

theorem concur_read_of_values
    (names : middle.map Prod.fst = others.map Prod.fst)
    (values : List.Forall₂ (fun value other =>
        Concur (readValue format value) (readValue format other))
      (middle.map Prod.snd) (others.map Prod.snd)) :
    Concur (read format (.table middle)) (read format (.table others)) := by
  rw [read, read, readEntries_eq_mapM, readEntries_eq_mapM]
  apply Concur.map
  apply Concur.mapM
  apply (Value.forall₂_entries names values).imp
  intro entry other alike
  rw [alike.1]
  exact alike.2.map _

/-- Rearranged tables read alike if the values in them do. -/
theorem concur_read_table (distinct : (entries.map Prod.fst).Nodup)
    (values : ∀ entry ∈ entries, ∀ other, entry.2.Rearranged other →
      Concur (readValue format entry.2) (readValue format other))
    (permuted : entries.Perm middle) (names : middle.map Prod.fst = others.map Prod.fst)
    (related : List.Forall₂ Value.Rearranged (middle.map Prod.snd) (others.map Prod.snd)) :
    Concur (read format (.table entries)) (read format (.table others)) := by
  apply (concur_read_of_perm permuted distinct).trans
  apply concur_read_of_values names
  have each : ∀ value ∈ middle.map Prod.snd, ∀ other, value.Rearranged other →
      Concur (readValue format value) (readValue format other) := by
    intro value inside
    obtain ⟨entry, present, rfl⟩ := List.mem_map.mp inside
    exact values entry (permuted.mem_iff.mpr present)
  exact forall₂_imp_of_mem each related

theorem readValue_of_rearranged {value other : Value} (orderly : value.Orderly)
    (same : value.Rearranged other) :
    Concur (readValue format value) (readValue format other) := by
  -- The induction is on distinctness, which reaches every part of the value.
  have distinct := orderly.distinct
  induction distinct generalizing other with
  | plain plain =>
      cases same with
      | plain _ => exact .refl _
      | array _ => contradiction
      | table _ _ _ => contradiction
  | @array items _ induction =>
      cases same with
      | plain plain => contradiction
      | array related =>
          rw [readValue, readValue, readItems_eq_mapM, readItems_eq_mapM]
          apply Concur.map
          apply Concur.mapM
          have each : ∀ item ∈ items, ∀ other, item.Rearranged other →
              Concur (readValue format item) (readValue format other) := by
            intro item inside other
            exact induction item inside (orderly.of_item inside)
          exact forall₂_imp_of_mem each related
  | @table entries distinct _ induction =>
      cases same with
      | plain plain => contradiction
      | @table _ middle others permuted names related =>
          have keys := orderly.unmarked_keys
          have otherKeys : datetimeMarker ∉ others.map Prod.fst := by
            rw [← names, ← (permuted.map Prod.fst).mem_iff]
            exact keys
          rw [readValue_table_eq_read format (isMarked_eq_false_of_keys keys),
            readValue_table_eq_read format (isMarked_eq_false_of_keys otherKeys)]
          apply Concur.map
          apply concur_read_table distinct _ permuted names related
          intro entry inside other
          exact induction entry inside (orderly.of_entry inside)

theorem read_of_rearranged {value other : Value} (orderly : value.Orderly)
    (same : value.Rearranged other) :
    Concur (read format value) (read format other) := by
  cases same with
  | plain _ => exact .refl _
  | array _ => exact .of_failures _ _
  | table permuted names related =>
      apply concur_read_table orderly.distinct.keys_nodup _ permuted names related
      intro entry inside other
      exact readValue_of_rearranged (orderly.of_entry inside)

end Metadata

/-! ## Records -/

/-- What reads neither arrays nor tables reads rearranged values alike. -/
theorem Value.Rearranged.concur_of_scalar {Held : Type}
    {readHeld : Value → Except ReadError Held} {value other : Value}
    (same : value.Rearranged other)
    (array : ∀ items, ∃ cause, readHeld (.array items) = .error cause)
    (table : ∀ entries, ∃ cause, readHeld (.table entries) = .error cause) :
    Concur (readHeld value) (readHeld other) := by
  cases same with
  | plain _ => exact .refl _
  | @array items others _ =>
      obtain ⟨cause, refused⟩ := array items
      obtain ⟨otherCause, otherRefused⟩ := array others
      rw [refused, otherRefused]
      exact .of_failures _ _
  | @table entries _ others _ _ _ =>
      obtain ⟨cause, refused⟩ := table entries
      obtain ⟨otherCause, otherRefused⟩ := table others
      rw [refused, otherRefused]
      exact .of_failures _ _

namespace Field

variable {Record : Type} {fields : List (Field Record)}

/-- A field reads rearranged values alike. -/
def Respects (field : Field Record) : Prop :=
  ∀ value other, value.Orderly → value.Rearranged other →
    Concur (field.read value) (field.read other)

theorem respects_of_put {Held : Type} {readHeld : Value → Except ReadError Held}
    (reads : ∀ value other, value.Orderly → value.Rearranged other →
      Concur (readHeld value) (readHeld other))
    (name : String) (put : Held → Record → Record) :
    Respects ⟨name, fun value => readHeld value >>= fun held => .ok (put held)⟩ := by
  intro value other orderly same
  apply (reads value other orderly same).bind
  intro held
  exact .refl _

theorem concur_setting (respects : ∀ field ∈ fields, Respects field)
    {entry other : String × Value} (named : entry.1 = other.1) (orderly : entry.2.Orderly)
    (same : entry.2.Rearranged other.2) :
    Concur (setting fields entry) (setting fields other) := by
  unfold setting
  rw [named]
  split
  · exact .refl _
  · rename_i field found
    exact respects field (List.mem_of_find?_eq_some found) _ _ orderly same

theorem concur_readEntries {entries others : Entries}
    (each : List.Forall₂ (fun entry other =>
      Concur (setting fields entry) (setting fields other)) entries others)
    (record : Record) :
    Concur (readEntries fields record entries) (readEntries fields record others) := by
  induction each generalizing record with
  | nil => exact .refl _
  | cons head _ induction =>
      rw [readEntries_cons, readEntries_cons]
      apply head.bind
      intro set
      exact induction (set record)

theorem readEntries_of_rearranged (independent : Independent fields)
    (respects : ∀ field ∈ fields, Respects field) {entries others : Entries}
    (orderly : Value.Orderly (.table entries))
    (same : Value.Rearranged (.table entries) (.table others)) (record : Record) :
    Concur (readEntries fields record entries) (readEntries fields record others) := by
  cases same with
  | plain plain => contradiction
  | @table _ middle _ permuted names related =>
      apply (independent.concur_of_perm permuted orderly.distinct.keys_nodup record).trans
      apply concur_readEntries
      apply forall₂_imp_of_mem _ (Value.forall₂_entries names related)
      intro entry inside other alike
      have present := permuted.mem_iff.mpr inside
      exact concur_setting respects alike.1 (orderly.of_entry present) alike.2

theorem readItems_of_rearranged (respects : ∀ field ∈ fields, Respects field)
    {items others : List Value} (orderly : ∀ item ∈ items, item.Orderly)
    (same : List.Forall₂ Value.Rearranged items others) (record : Record) :
    Concur (readItems record fields items) (readItems record fields others) := by
  induction same generalizing fields record with
  | nil => exact .refl _
  | cons head _ induction =>
      cases fields with
      | nil => exact .refl _
      | cons field fields =>
          rw [List.forall_mem_cons] at respects orderly
          apply (respects.1 _ _ orderly.1 head).bind
          intro set
          exact induction respects.2 orderly.2 (set record)

theorem readRecord_of_rearranged (independent : Independent fields)
    (respects : ∀ field ∈ fields, Respects field) {value other : Value}
    (orderly : value.Orderly) (same : value.Rearranged other) (name : String)
    (initial : Record) :
    Concur (readRecord name fields initial value) (readRecord name fields initial other) := by
  cases value with
  | table entries =>
      cases same with
      | plain plain => contradiction
      | table permuted names related =>
          apply readEntries_of_rearranged independent respects orderly
          exact .table permuted names related
  | array items =>
      cases same with
      | plain plain => contradiction
      | array related =>
          exact readItems_of_rearranged respects (fun _ => orderly.of_item) related initial
  | _ =>
      cases same
      exact .refl _

end Field

/-! ## Configurations -/

variable {value other : Value}

theorem Logging.read_of_rearranged (orderly : value.Orderly)
    (same : value.Rearranged other) : Concur (read value) (read other) := by
  have respects : ∀ field ∈ fields, Field.Respects field := by
    simp only [fields, List.forall_mem_cons, List.not_mem_nil, false_imp_iff, implies_true,
      and_true]
    refine ⟨?_, ?_, ?_⟩
    all_goals
      apply Field.respects_of_put
      intro value other _ same
      exact same.concur_of_scalar (fun _ => ⟨_, rfl⟩) fun _ => ⟨_, rfl⟩
  exact Field.readRecord_of_rearranged fields_independent respects orderly same _ _

theorem Memory.read_of_rearranged (orderly : value.Orderly)
    (same : value.Rearranged other) : Concur (read value) (read other) := by
  have respects : ∀ field ∈ fields, Field.Respects field := by
    rw [fields, List.forall_mem_singleton]
    apply Field.respects_of_put
    intro value other _ same
    exact same.concur_of_scalar (fun _ => ⟨_, rfl⟩) fun _ => ⟨_, rfl⟩
  exact Field.readRecord_of_rearranged fields_independent respects orderly same _ _

namespace Seed

variable {format : Format}

theorem readRoles_of_rearranged (same : value.Rearranged other) :
    Concur (readRoles format value) (readRoles format other) := by
  cases same with
  | plain _ => exact .refl _
  | table _ _ _ => exact .of_failures _ _
  | @array items others related =>
      have roles : Concur (items.mapM (Value.readString format))
          (others.mapM (Value.readString format)) := by
        apply Concur.mapM
        apply related.imp
        intro item other same
        exact same.concur_of_scalar (fun _ => ⟨_, rfl⟩) fun _ => ⟨_, rfl⟩
      apply roles.bind
      intro roles
      exact .refl _

theorem fields_respect (format : Format) : ∀ field ∈ fields format, Field.Respects field := by
  simp only [fields, List.forall_mem_cons, List.not_mem_nil, false_imp_iff, implies_true,
    and_true]
  refine ⟨?_, ?_, ?_, ?_⟩
  · apply Field.respects_of_put
    intro value other _ same
    exact same.concur_of_scalar (fun _ => ⟨_, rfl⟩) fun _ => ⟨_, rfl⟩
  · apply Field.respects_of_put
    intro value other _ same
    exact same.concur_of_scalar (fun _ => ⟨_, rfl⟩) fun _ => ⟨_, rfl⟩
  · apply Field.respects_of_put
    intro value other _ same
    exact readRoles_of_rearranged same
  · apply Field.respects_of_put
    intro value other orderly same
    exact Metadata.read_of_rearranged orderly same

theorem read_of_rearranged (orderly : value.Orderly) (same : value.Rearranged other) :
    Concur (read format value) (read format other) := by
  cases same with
  | plain _ => exact .refl _
  | array related =>
      have drafts := Field.readItems_of_rearranged (fields_respect format)
        (fun _ => orderly.of_item) related {}
      rw [read, read, readArray, readArray, related.length_eq]
      apply drafts.bind
      intro draft
      exact .refl _
  | table permuted names related =>
      have drafts := Field.readEntries_of_rearranged (fields_independent format)
        (fields_respect format) orderly (.table permuted names related) {}
      apply drafts.bind
      intro draft
      exact .refl _

end Seed

namespace Config

theorem readSeeds_of_rearranged (orderly : value.Orderly) (same : value.Rearranged other) :
    Concur (readSeeds value) (readSeeds other) := by
  cases same with
  | plain _ => exact .refl _
  | table _ _ _ => exact .of_failures _ _
  | @array items others related =>
      change Concur (items.mapM (Seed.read .toml)) (others.mapM (Seed.read .toml))
      apply Concur.mapM
      apply forall₂_imp_of_mem _ related
      intro item inside other
      exact Seed.read_of_rearranged (orderly.of_item inside)

theorem read_of_rearranged {entries permuted : Entries}
    (orderly : Value.Orderly (.table entries))
    (same : Value.Rearranged (.table entries) (.table permuted)) :
    Concur (read entries) (read permuted) := by
  have respects : ∀ field ∈ fields, Field.Respects field := by
    simp only [fields, List.forall_mem_cons, List.not_mem_nil, false_imp_iff, implies_true,
      and_true]
    refine ⟨?_, ?_, ?_⟩
    · apply Field.respects_of_put
      intro value other
      exact Logging.read_of_rearranged
    · apply Field.respects_of_put
      intro value other
      exact Memory.read_of_rearranged
    · apply Field.respects_of_put
      intro value other
      exact readSeeds_of_rearranged
  exact Field.readEntries_of_rearranged fields_independent respects orderly same {}

/-- In a document no key comes twice in a table.  If, besides, none is the date-time
marker, the entries of its tables may stand in any order, at any depth: the document reads
as a configuration exactly when it does in the other order, as the same one, and then
meets the same conditions or fails to meet the same one. -/
theorem order_of_entries_is_immaterial :
    (∀ text entries, Toml.parse? text = some entries → Value.Distinct (.table entries)) ∧
      ∀ entries permuted, Value.Distinct (.table entries) →
        datetimeMarker ∉ Value.entryNames entries →
        Value.Rearranged (.table entries) (.table permuted) →
        (∀ config, read entries = .ok config ↔ read permuted = .ok config) ∧
          (∀ outcome, (∃ config, read entries = .ok config ∧ config.validate = outcome) ↔
            ∃ config, read permuted = .ok config ∧ config.validate = outcome) ∧
          ∀ text other, Toml.parse? text = some entries →
            Toml.parse? other = some permuted →
            (∀ config, parse text = .ok config ↔ parse other = .ok config) ∧
              ((∃ cause, parse text = .error (.malformed cause)) ↔
                ∃ cause, parse other = .error (.malformed cause)) ∧
              ∀ fault, parse text = .error (.invalid fault) ↔
                parse other = .error (.invalid fault) := by
  constructor
  · intro text entries document
    exact Toml.distinct_of_parse? document
  · intro entries permuted distinct unmarked same
    have alike := read_of_rearranged ⟨distinct, unmarked⟩ same
    refine ⟨alike, ?_, ?_⟩
    · intro outcome
      apply exists_congr
      intro config
      exact and_congr_left' (alike config)
    · intro text other document otherDocument
      exact parse_of_concur document otherDocument alike

/-- A document with a seed whose metadata has a table inside. -/
def nestedDocument : Entries :=
  [ ("users", .array [.table
      [ ("username", .string "u"),
        ("email", .string "e"),
        ("metadata", .table
          [ ("b", .integer 2),
            ("a", .table [("y", .boolean true), ("x", .array [.integer 2, .integer 1])]) ]) ]]),
    ("logging", .table [("level", .string "warn"), ("console", .boolean true)]) ]

/-- The same with the entries of every table in the opposite order. -/
def reversedDocument : Entries :=
  [ ("logging", .table [("console", .boolean true), ("level", .string "warn")]),
    ("users", .array [.table
      [ ("metadata", .table
          [ ("a", .table [("x", .array [.integer 2, .integer 1]), ("y", .boolean true)]),
            ("b", .integer 2) ]),
        ("email", .string "e"),
        ("username", .string "u") ]]) ]

/-- The level and the metadata, with a table inside it, are read from either place. -/
theorem reading_of_reversedDocument :
    Value.Distinct (.table nestedDocument) ∧
      datetimeMarker ∉ Value.entryNames nestedDocument ∧
      Value.Rearranged (.table nestedDocument) (.table reversedDocument) ∧
      read reversedDocument = .ok
        { logging := { level := "warn", console := true }
          users := [⟨"u", "e", none,
            [ ("a", .object [("x", .array [.integer 2, .integer 1]), ("y", .boolean true)]),
              ("b", .integer 2) ]⟩] } := by
  have distinct : Value.Distinct (.table nestedDocument) := by
    have all {Item : Type} {condition : Item → Prop} {items : List Item} :=
      (List.forall_iff_forall_mem (p := condition) (l := items)).mp
    refine .table (by decide) (all ⟨.array (all (.table (by decide) ?seed)), ?logging⟩)
    case logging => exact .table (by decide) (all ⟨.plain trivial, .plain trivial⟩)
    case seed =>
      refine all ⟨.plain trivial, .plain trivial, .table (by decide) ?_⟩
      refine all ⟨.plain trivial, .table (by decide) ?_⟩
      refine all ⟨.plain trivial, .array ?_⟩
      exact all ⟨.plain trivial, .plain trivial⟩
  have unmarked : datetimeMarker ∉ Value.entryNames nestedDocument := by decide
  have rearranged : Value.Rearranged (.table nestedDocument) (.table reversedDocument) := by
    unfold nestedDocument reversedDocument
    refine .table (List.reverse_perm _).symm rfl
      (.cons ?logging (.cons (.array (.cons ?seed .nil)) .nil))
    case logging =>
      exact .table (List.reverse_perm _).symm rfl
        (.cons (.plain trivial) (.cons (.plain trivial) .nil))
    case seed =>
      refine .table (List.reverse_perm _).symm rfl
        (.cons ?metadata (.cons (.plain trivial) (.cons (.plain trivial) .nil)))
      refine .table (List.reverse_perm _).symm rfl (.cons ?inner (.cons (.plain trivial) .nil))
      refine .table (List.reverse_perm _).symm rfl (.cons ?array (.cons (.plain trivial) .nil))
      exact .array (.cons (.plain trivial) (.cons (.plain trivial) .nil))
  refine ⟨distinct, unmarked, rearranged, ?_⟩
  have reading := (order_of_entries_is_immaterial.2 _ _ distinct unmarked rearranged).1
  exact (reading _).mp rfl

end Config

end UserRegistry
