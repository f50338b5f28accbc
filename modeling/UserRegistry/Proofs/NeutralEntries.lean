import Mathlib.Logic.Relation
import UserRegistry.Proofs.ConfigAcceptance
import UserRegistry.Proofs.IndependentFields

/-!
# Neutral entries

An entry is neutral in a table if it belongs to no field, or if it gives its default to a
field that the table does not set.  A document reads alike with and without such entries,
wherever they are put: in the document itself, in its logging and memory tables, or in a
seed, be it a document that is accepted or one that is refused.  The roles of a seed have
no default that could be written.
-/

namespace UserRegistry

/-- An entry that tells nothing new when it is put into a table. -/
inductive Neutral (names : List String) (Default : String × Value → Prop)
    (entries : Entries) (entry : String × Value) : Prop where
  | unknown : entry.1 ∉ names → Neutral names Default entries entry
  | default : Default entry → entry.1 ∉ entries.map Prod.fst →
      Neutral names Default entries entry

/-- A table with one more entry at any place, which is neutral in it. -/
inductive Padded (names : List String) (Default : String × Value → Prop)
    (entries padded : Entries) : Prop where
  | insert (before after : Entries) (entry : String × Value) :
      entries = before ++ after → padded = before ++ entry :: after →
      Neutral names Default entries entry → Padded names Default entries padded

namespace Field

variable {Record : Type} {record : Record} {fields : List (Field Record)}
  {entries padded : Entries}

/-- An entry that does not change a record. -/
def Idle (fields : List (Field Record)) (record : Record) (entry : String × Value) : Prop :=
  ∃ set, setting fields entry = .ok set ∧ set record = record

/-- Neutral entries may be left out. -/
theorem readEntries_of_padded (independent : Independent fields)
    {Default : String × Value → Prop} (idle : ∀ entry, Default entry → Idle fields record entry)
    (more : Padded (fields.map Field.name) Default entries padded) :
    readEntries fields record padded = readEntries fields record entries := by
  obtain ⟨before, after, entry, rfl, rfl, neutral⟩ := more
  cases neutral with
  | unknown unknown =>
      apply readEntries_insert (setting_of_unknown unknown)
      intro changed result
      rfl
  | default isDefault absent =>
      obtain ⟨set, sets, unchanged⟩ := idle entry isDefault
      apply readEntries_insert sets
      intro changed result
      rw [List.map_append, List.mem_append, not_or] at absent
      -- No earlier entry sets the field, so that it still has its default here.
      exact independent.setting_eq_self sets unchanged absent.1 result

/-- A record reads alike from a value that sets the same. -/
theorem readEntries_replace (record : Record) (before after : Entries) {name : String}
    {value other : Value} (same : setting fields (name, value) = setting fields (name, other)) :
    readEntries fields record (before ++ (name, value) :: after) =
      readEntries fields record (before ++ (name, other) :: after) := by
  rw [readEntries_append, readEntries_append]
  apply bind_congr
  intro changed
  rw [readEntries_cons, readEntries_cons, same]

theorem readEntries_of_idle (idle : ∀ entry ∈ entries, Idle fields record entry) :
    readEntries fields record entries = .ok record := by
  induction entries with
  | nil => rfl
  | cons entry entries induction =>
      obtain ⟨⟨set, sets, unchanged⟩, rest⟩ := List.forall_mem_cons.mp idle
      rw [readEntries_cons, sets]
      change readEntries fields (set record) entries = _
      rw [unchanged, induction rest]

end Field

/-! ## Defaults -/

/-- A default of the logging table, written out. -/
inductive Logging.IsDefault : String × Value → Prop where
  | level : IsDefault ("level", .string "info")
  | format : IsDefault ("format", .string "json")
  | console : IsDefault ("console", .boolean false)

/-- The default of the memory table, written out. -/
inductive Memory.IsDefault : String × Value → Prop where
  | userCapacity : IsDefault ("user_capacity", .integer 1024)

/-- The default of a seed that can be written out. -/
inductive Seed.IsDefault : String × Value → Prop where
  | metadata : IsDefault ("metadata", .table [])

/-- A default of a document, written out: tables of defaults, in any order, or no users. -/
inductive Config.IsDefault : String × Value → Prop where
  | logging {entries : Entries} :
      (∀ entry ∈ entries, Logging.IsDefault entry) → IsDefault ("logging", .table entries)
  | memory {entries : Entries} :
      (∀ entry ∈ entries, Memory.IsDefault entry) → IsDefault ("memory", .table entries)
  | users : IsDefault ("users", .array [])

theorem Logging.IsDefault.idle {entry : String × Value} (isDefault : IsDefault entry) :
    Field.Idle fields {} entry := by
  cases isDefault with
  | level => exact ⟨_, rfl, rfl⟩
  | format => exact ⟨_, rfl, rfl⟩
  | console => exact ⟨_, rfl, rfl⟩

theorem Memory.IsDefault.idle {entry : String × Value} (isDefault : IsDefault entry) :
    Field.Idle fields {} entry := by
  cases isDefault with
  | userCapacity => exact ⟨_, rfl, rfl⟩

theorem Seed.IsDefault.idle {entry : String × Value} (isDefault : IsDefault entry) :
    Field.Idle (fields .toml) {} entry := by
  cases isDefault with
  | metadata => exact ⟨_, rfl, rfl⟩

theorem Logging.read_of_defaults {entries : Entries}
    (defaults : ∀ entry ∈ entries, IsDefault entry) : read (.table entries) = .ok {} := by
  apply Field.readEntries_of_idle
  intro entry inside
  exact (defaults entry inside).idle

theorem Memory.read_of_defaults {entries : Entries}
    (defaults : ∀ entry ∈ entries, IsDefault entry) : read (.table entries) = .ok {} := by
  apply Field.readEntries_of_idle
  intro entry inside
  exact (defaults entry inside).idle

/-! ## Tables with neutral entries -/

theorem Logging.read_of_padded {entries padded : Entries}
    (more : Padded ["level", "format", "console"] IsDefault entries padded) :
    read (.table padded) = read (.table entries) :=
  Field.readEntries_of_padded fields_independent (fun _ => IsDefault.idle) more

theorem Memory.read_of_padded {entries padded : Entries}
    (more : Padded ["user_capacity"] IsDefault entries padded) :
    read (.table padded) = read (.table entries) :=
  Field.readEntries_of_padded fields_independent (fun _ => IsDefault.idle) more

theorem Seed.read_of_padded {entries padded : Entries}
    (more : Padded ["username", "email", "roles", "metadata"] IsDefault entries padded) :
    read .toml (.table padded) = read .toml (.table entries) := by
  have drafts := Field.readEntries_of_padded (fields_independent .toml)
    (fun _ => IsDefault.idle) more
  rw [read, read, readTable, readTable, drafts]

namespace Config

theorem setting_logging (value : Value) :
    Field.setting fields ("logging", value) =
      Logging.read value >>= fun logging => .ok fun config => { config with logging := logging } :=
  rfl

theorem setting_memory (value : Value) :
    Field.setting fields ("memory", value) =
      Memory.read value >>= fun memory => .ok fun config => { config with memory := memory } :=
  rfl

theorem setting_users (value : Value) :
    Field.setting fields ("users", value) =
      readSeeds value >>= fun users => .ok fun config => { config with users := users } :=
  rfl

theorem IsDefault.idle {entry : String × Value} (isDefault : IsDefault entry) :
    Field.Idle fields {} entry := by
  cases isDefault with
  | logging defaults =>
      rw [Field.Idle, setting_logging, Logging.read_of_defaults defaults]
      exact ⟨_, rfl, rfl⟩
  | memory defaults =>
      rw [Field.Idle, setting_memory, Memory.read_of_defaults defaults]
      exact ⟨_, rfl, rfl⟩
  | users => exact ⟨_, rfl, rfl⟩

/-! ## Documents with neutral entries -/

/-- A document with one more entry, which is neutral where it is put. -/
inductive PaddedDocument : Entries → Entries → Prop where
  | root {entries padded : Entries} :
      Padded ["logging", "memory", "users"] IsDefault entries padded →
      PaddedDocument entries padded
  | logging (before after : Entries) {table padded : Entries} :
      Padded ["level", "format", "console"] Logging.IsDefault table padded →
      PaddedDocument (before ++ ("logging", .table table) :: after)
        (before ++ ("logging", .table padded) :: after)
  | memory (before after : Entries) {table padded : Entries} :
      Padded ["user_capacity"] Memory.IsDefault table padded →
      PaddedDocument (before ++ ("memory", .table table) :: after)
        (before ++ ("memory", .table padded) :: after)
  | seed (before after : Entries) (earlier later : List Value) {table padded : Entries} :
      Padded ["username", "email", "roles", "metadata"] Seed.IsDefault table padded →
      PaddedDocument (before ++ ("users", .array (earlier ++ .table table :: later)) :: after)
        (before ++ ("users", .array (earlier ++ .table padded :: later)) :: after)

theorem readSeeds_replace (earlier later : List Value) {value other : Value}
    (same : Seed.read .toml value = Seed.read .toml other) :
    readSeeds (.array (earlier ++ value :: later)) =
      readSeeds (.array (earlier ++ other :: later)) := by
  change List.mapM _ _ = List.mapM _ _
  rw [List.mapM_append, List.mapM_append, List.mapM_cons, List.mapM_cons, same]

theorem read_of_paddedDocument {entries padded : Entries}
    (more : PaddedDocument entries padded) : read padded = read entries := by
  cases more with
  | root more =>
      exact Field.readEntries_of_padded fields_independent (fun _ => IsDefault.idle) more
  | logging before after more =>
      apply Field.readEntries_replace
      rw [setting_logging, setting_logging, Logging.read_of_padded more]
  | memory before after more =>
      apply Field.readEntries_replace
      rw [setting_memory, setting_memory, Memory.read_of_padded more]
  | seed before after earlier later more =>
      apply Field.readEntries_replace
      rw [setting_users, setting_users, readSeeds_replace _ _ (Seed.read_of_padded more)]

/-- A document reads alike with any number of neutral entries, as the same configuration
or with the same error, and it is accepted as the same configuration or refused for the
same cause. -/
theorem neutral_entries_are_immaterial {entries padded : Entries}
    (more : Relation.ReflTransGen PaddedDocument entries padded) :
    read padded = read entries ∧
      ∀ text other, Toml.parse? text = some entries → Toml.parse? other = some padded →
        parse text = parse other := by
  have same : read padded = read entries := by
    induction more with
    | refl => rfl
    | tail _ step induction => exact (read_of_paddedDocument step).trans induction
  refine ⟨same, ?_⟩
  intro text other document otherDocument
  rw [parse, parse, document, otherDocument]
  simp only [ofDocument, same]

def defaultMemory : String × Value :=
  ("memory", .table [("user_capacity", .integer 1024)])

/-- A document with a level and a seed, and with other entries in front, in the logging
table and in the seed. -/
def documentWith (first inLogging inSeed : Entries) : Entries :=
  first ++
    [ ("logging", .table (inLogging ++ [("level", .string "warn")])),
      ("users", .array [.table
        (("username", .string "u") :: inSeed ++ [("email", .string "e")])]) ]

/-- Defaults in three places, and a float that is no number under an unknown key. -/
theorem neutral_entries_of_fullDocument :
    Relation.ReflTransGen PaddedDocument (documentWith [] [] [])
        (documentWith [defaultMemory] [("console", .boolean false)]
          [("age", .float .nan), ("metadata", .table [])]) ∧
      read (documentWith [defaultMemory] [("console", .boolean false)]
          [("age", .float .nan), ("metadata", .table [])]) =
        .ok { logging := { level := "warn" }, users := [⟨"u", "e", none, []⟩] } := by
  have memory : PaddedDocument (documentWith [] [] []) (documentWith [defaultMemory] [] []) := by
    apply PaddedDocument.root
    apply Padded.insert [] (documentWith [] [] []) _ rfl rfl
    apply Neutral.default
    · apply IsDefault.memory
      simp [Memory.IsDefault.userCapacity]
    · decide
  have console : PaddedDocument (documentWith [defaultMemory] [] [])
      (documentWith [defaultMemory] [("console", .boolean false)] []) := by
    apply PaddedDocument.logging [defaultMemory] _
    apply Padded.insert [] _ _ rfl rfl
    exact .default .console (by decide)
  have metadata : PaddedDocument (documentWith [defaultMemory] [("console", .boolean false)] [])
      (documentWith [defaultMemory] [("console", .boolean false)]
        [("metadata", .table [])]) := by
    apply PaddedDocument.seed [_, _] [] [] []
    apply Padded.insert [_] _ _ rfl rfl
    exact .default .metadata (by decide)
  have age : PaddedDocument
      (documentWith [defaultMemory] [("console", .boolean false)] [("metadata", .table [])])
      (documentWith [defaultMemory] [("console", .boolean false)]
        [("age", .float .nan), ("metadata", .table [])]) := by
    apply PaddedDocument.seed [_, _] [] [] []
    apply Padded.insert [_] _ _ rfl rfl
    exact .unknown (by decide)
  have steps := (((Relation.ReflTransGen.single memory).tail console).tail metadata).tail age
  exact ⟨steps, (neutral_entries_are_immaterial steps).1.trans rfl⟩

end Config

end UserRegistry
