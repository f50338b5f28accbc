import UserRegistry.Config.Printer
import UserRegistry.Proofs.ConfigReading
import UserRegistry.Proofs.TomlDocument

/-!
# Written configurations read back

A configuration is written as sections: one for logging, one for memory, and two for
each seed, of which the second is the table of its metadata.  The sections build the
root table section by section, and each table reads back as the record that it was
written from.
-/

namespace UserRegistry

open Toml

/-! ## The sections of a configuration -/

def Logging.members (logging : Logging) : Json.Members :=
  [ ("level", .string logging.level),
    ("format", .string logging.format),
    ("console", .boolean logging.console) ]

def Memory.members (memory : Memory) : Json.Members :=
  [("user_capacity", .integer memory.userCapacity)]

/-- What is written of a seed besides its metadata. -/
def Seed.members (seed : Seed) : Json.Members :=
  ("username", .string seed.username) :: ("email", .string seed.email) ::
    match seed.roles with
    | none => []
    | some roles => [("roles", .array (roles.map .string))]

/-- The sections of a seed with a table of these entries as its metadata. -/
def Seed.sectionsOf (seed : Seed) (entries : Entries) : List Section :=
  [ .ofEntries (.element ["users"]) (Json.toEntries seed.members),
    .ofEntries (.table ["users", "metadata"]) entries ]

def Seed.sections (seed : Seed) : List Section :=
  seed.sectionsOf (Json.toEntries seed.metadata)

def Config.sections (config : Config) : List Section :=
  .ofEntries (.table ["logging"]) (Json.toEntries config.logging.members) ::
    .ofEntries (.table ["memory"]) (Json.toEntries config.memory.members) ::
      config.users.flatMap Seed.sections

/-- A seed whose metadata a configuration text can hold: its keys are in order, and so
are those of the objects in it, its values are of the kinds that both formats have, and
none nests deeper than texts may. -/
structure Seed.Configurable (seed : Seed) : Prop where
  ordered : seed.metadata.Ordered
  values : Json.EverywhereMembers Json.Configurable seed.metadata
  shallow : Json.memberDepth seed.metadata ≤ nestingLimit

/-! ## Lines -/

/-- The names of all fields that are written without quotes. -/
def fieldNames : List String :=
  ["level", "format", "console", "user_capacity", "username", "email", "roles"]

theorem readsAsKey_field {name : String} (field : name ∈ fieldNames) :
    ReadsAsKey name.toList name := by
  have bare : ∀ name ∈ fieldNames,
      name.toList ≠ [] ∧ name.toList.all isBareKey = true := by
    decide
  exact readsAsKey_bare name (bare name field).1 (bare name field).2

theorem Json.everywhere_strings (texts : List String) :
    EverywhereItems Configurable (texts.map .string) := by
  induction texts with
  | nil => trivial
  | cons text texts induction => exact ⟨trivial, induction⟩

theorem Json.itemDepth_strings (texts : List String) :
    itemDepth (texts.map .string) = 0 := by
  induction texts with
  | nil => rfl
  | cons text texts induction => simpa [itemDepth, depth] using induction

theorem lines_record {line : List Char} (header : Header) (members : Json.Members)
    (reads : ReadsAs line header.statement)
    (named : ∀ name ∈ members.map Prod.fst, name ∈ fieldNames)
    (configurable : Json.EverywhereMembers Json.Configurable members)
    (shallow : Json.memberDepth members ≤ nestingLimit) :
    Lines (line ++ '\n' :: members.flatMap fun member =>
        assignment member.1.toList (written member.2))
      (Section.ofEntries header (Json.toEntries members)).statements := by
  have keys : ∀ member ∈ members, ReadsAsKey member.1.toList member.1 :=
    fun member inside => readsAsKey_field (named member.1 (List.mem_map_of_mem inside))
  exact lines_section header members reads keys
    (readsBack_members_of_configurable members configurable) shallow

theorem Logging.lines_written (logging : Logging) :
    Lines logging.written
      (Section.ofEntries (.table ["logging"])
        (Json.toEntries logging.members)).statements := by
  have header : ReadsAs ('[' :: "logging".toList ++ [']']) (.table ["logging"]) :=
    readsAs_table (fun _ => rfl) (by decide) (by decide)
  have named : ∀ name ∈ ["level", "format", "console"], name ∈ fieldNames := by
    decide
  have lines := lines_record (.table ["logging"]) logging.members header named
    ⟨trivial, trivial, trivial, trivial⟩ (Nat.zero_le _)
  simpa [written, members, Toml.header, Toml.written] using lines

theorem Memory.lines_written {memory : Memory}
    (small : memory.userCapacity < Numeral.signedBound) :
    Lines memory.written
      (Section.ofEntries (.table ["memory"]) (Json.toEntries memory.members)).statements := by
  have header : ReadsAs ('[' :: "memory".toList ++ [']']) (.table ["memory"]) :=
    readsAs_table (fun _ => rfl) (by decide) (by decide)
  have named : ∀ name ∈ ["user_capacity"], name ∈ fieldNames := by
    decide
  have bounds : (Json.integer memory.userCapacity).Configurable := by
    constructor <;> omega
  have lines := lines_record (.table ["memory"]) memory.members header named
    ⟨bounds, trivial⟩ (Nat.zero_le _)
  simpa [written, members, Toml.header, Toml.written, Numeral.signed] using lines

namespace Seed

variable {seed : Seed}

/-- The fields of a seed differ in name, from each other and from the metadata. -/
theorem names_members (seed : Seed) :
    (∀ name ∈ seed.members.map Prod.fst, name ∈ fieldNames) ∧
      (seed.members.map Prod.fst).Nodup ∧ "metadata" ∉ seed.members.map Prod.fst := by
  have names : seed.members.map Prod.fst = ["username", "email"] ∨
      seed.members.map Prod.fst = ["username", "email", "roles"] := by
    unfold members
    cases seed.roles with
    | none => exact .inl rfl
    | some roles => exact .inr rfl
  rcases names with names | names
  · rw [names]
    decide
  · rw [names]
    decide

theorem configurable_members (seed : Seed) :
    Json.EverywhereMembers Json.Configurable seed.members ∧
      Json.memberDepth seed.members ≤ nestingLimit := by
  unfold members
  cases seed.roles with
  | none => exact ⟨⟨trivial, trivial, trivial⟩, Nat.zero_le _⟩
  | some roles =>
      refine ⟨⟨trivial, trivial, ⟨trivial, Json.everywhere_strings roles⟩, trivial⟩, ?_⟩
      simp [Json.memberDepth, Json.depth, Json.itemDepth_strings, nestingLimit]

theorem lines_written (configurable : seed.Configurable) :
    Lines seed.written (seed.sections.flatMap Section.statements) := by
  have header : ReadsAs ('[' :: '[' :: "users".toList ++ [']', ']']) (.element ["users"]) :=
    readsAs_element (fun _ => rfl) (by decide)
  have metadataHeader : ReadsAs ('[' :: "users.metadata".toList ++ [']'])
      (.table ["users", "metadata"]) :=
    readsAs_table (fun _ => rfl) (by decide) (by decide)
  obtain ⟨named, _⟩ := seed.names_members
  obtain ⟨fields, shallow⟩ := seed.configurable_members
  have lines := lines_record (.element ["users"]) seed.members header named fields shallow
  have metadataLines := lines_section (.table ["users", "metadata"]) seed.metadata
    metadataHeader (fun member _ => readsAsKey_quoted member.1)
    (readsBack_members_of_configurable seed.metadata configurable.values)
    configurable.shallow
  have text : seed.written =
      ('[' :: '[' :: "users".toList ++ [']', ']']) ++ '\n' :: seed.members.flatMap
          (fun member => assignment member.1.toList (Toml.written member.2)) ++
        (('[' :: "users.metadata".toList ++ [']']) ++ '\n' :: seed.metadata.flatMap
          fun member => assignment (quoted member.1) (Toml.written member.2)) := by
    unfold written members
    cases seed.roles with
    | none => simp [writtenRoles, elementHeader, Toml.header, Toml.written]
    | some roles => simp [writtenRoles, elementHeader, Toml.header, Toml.written]
  rw [text, sections, sectionsOf, List.flatMap_cons, List.flatMap_singleton]
  exact lines.append metadataLines

end Seed

theorem Config.lines_written {config : Config}
    (small : config.memory.userCapacity < Numeral.signedBound)
    (configurable : ∀ seed ∈ config.users, seed.Configurable) :
    Lines config.written (config.sections.flatMap Section.statements) := by
  have users : Lines (config.users.flatMap Seed.written)
      (config.users.flatMap fun seed => seed.sections.flatMap Section.statements) :=
    .flatMap fun seed inside => Seed.lines_written (configurable seed inside)
  have settings := config.logging.lines_written.append (Memory.lines_written small)
  have lines := settings.append users
  simpa [written, sections, List.flatMap_assoc] using lines

/-! ## The root table -/

namespace Seed

variable {seed : Seed}

/-- The element of the array of users for a seed with such a table. -/
def itemsOf (seed : Seed) (entries : Entries) : Items :=
  Items.ofEntries (Json.toEntries seed.members) ++
    [("metadata", .table .header (Items.ofEntries entries))]

def items (seed : Seed) : Items :=
  seed.itemsOf (Json.toEntries seed.metadata)

/-- The two sections of a seed, with any entries as its metadata, add one element to the
array of users. -/
theorem build_sectionsOf {entries : Entries} (distinctMetadata : (entries.map Prod.fst).Nodup)
    {base : Items} (free : base.lookup "users" = none) (elements : List Items) :
    (seed.sectionsOf entries).foldlM Section.build (base.withElements "users" elements) =
      some (base.withElements "users" (elements ++ [seed.itemsOf entries])) := by
  obtain ⟨_, distinct, metadataFree⟩ := seed.names_members
  rw [← Json.map_fst_toEntries] at distinct metadataFree
  have noMetadata := Items.lookup_ofEntries_eq_none_iff.mpr metadataFree
  have element := Section.build_element free distinct elements
  have metadata := Section.build_tableInElement free noMetadata distinctMetadata elements
  rw [sectionsOf, List.foldlM_cons, element, Option.bind_eq_bind, Option.bind_some,
    List.foldlM_cons, metadata]
  rfl

theorem build_sections (configurable : seed.Configurable) {base : Items}
    (free : base.lookup "users" = none) (elements : List Items) :
    seed.sections.foldlM Section.build (base.withElements "users" elements) =
      some (base.withElements "users" (elements ++ [seed.items])) := by
  have distinct : ((Json.toEntries seed.metadata).map Prod.fst).Nodup := by
    rw [Json.map_fst_toEntries]
    exact configurable.ordered.distinct
  exact build_sectionsOf distinct free elements

end Seed

namespace Config

variable {config : Config}

/-- The root table without the users. -/
def settings (config : Config) : Items :=
  [ ("logging", .table .header (Items.ofEntries (Json.toEntries config.logging.members))),
    ("memory", .table .header (Items.ofEntries (Json.toEntries config.memory.members))) ]

theorem build_users {seeds : List Seed} (configurable : ∀ seed ∈ seeds, seed.Configurable)
    {base : Items} (free : base.lookup "users" = none) (elements : List Items) :
    (seeds.flatMap Seed.sections).foldlM Section.build (base.withElements "users" elements) =
      some (base.withElements "users" (elements ++ seeds.map Seed.items)) := by
  induction seeds generalizing elements with
  | nil => simp
  | cons seed seeds induction =>
      have first := Seed.build_sections (configurable seed List.mem_cons_self) free elements
      have others := induction (fun other inside =>
        configurable other (List.mem_cons_of_mem seed inside)) (elements ++ [seed.items])
      rw [List.flatMap_cons, List.foldlM_append, first, Option.bind_eq_bind,
        Option.bind_some, others]
      simp

theorem build_sections (configurable : ∀ seed ∈ config.users, seed.Configurable) :
    config.sections.foldlM Section.build [] =
      some (config.settings.withElements "users" (config.users.map Seed.items)) := by
  have distinctLogging : ["level", "format", "console"].Nodup := by decide
  have distinctMemory : ["user_capacity"].Nodup := by decide
  have logging : Section.build []
        (.ofEntries (.table ["logging"]) (Json.toEntries config.logging.members)) =
      some (config.settings.take 1) :=
    Section.build_table rfl distinctLogging
  have memory : Section.build (config.settings.take 1)
        (.ofEntries (.table ["memory"]) (Json.toEntries config.memory.members)) =
      some config.settings :=
    Section.build_table rfl distinctMemory
  have free : config.settings.lookup "users" = none := rfl
  rw [sections, List.foldlM_cons, logging, Option.bind_eq_bind, Option.bind_some,
    List.foldlM_cons, memory, Option.bind_eq_bind, Option.bind_some]
  exact build_users configurable free []

theorem parse?_text (small : config.memory.userCapacity < Numeral.signedBound)
    (configurable : ∀ seed ∈ config.users, seed.Configurable) :
    Toml.parse? config.text =
      some (entriesOf (config.settings.withElements "users"
        (config.users.map Seed.items))) := by
  rw [Toml.parse?, text, String.toList_ofList]
  apply document?_of_lines (lines_written small configurable)
  · simp [written, Logging.written, Toml.header]
  · exact build_sections configurable

end Config

/-! ## Records -/

namespace Seed

variable {seed : Seed}

theorem readEntries_members (seed : Seed) :
    Field.readEntries (fields .toml) {} (Json.toEntries seed.members) =
      .ok ⟨some seed.username, some seed.email, seed.roles, []⟩ := by
  unfold members
  cases seed.roles with
  | none => rfl
  | some roles =>
      have read : Field.readEntry (fields .toml)
            ⟨some seed.username, some seed.email, none, []⟩
            ("roles", .array (Json.toValues (roles.map .string))) =
          .ok ⟨some seed.username, some seed.email, some roles, []⟩ :=
        bind_eq_ok_iff.mpr
          ⟨_, bind_eq_ok_iff.mpr ⟨_, readRoles_strings .toml roles, rfl⟩, rfl⟩
      exact bind_eq_ok_iff.mpr ⟨_, rfl, bind_eq_ok_iff.mpr
        ⟨_, rfl, bind_eq_ok_iff.mpr ⟨_, read, rfl⟩⟩⟩

theorem read_itemsOf {entries : Entries} {members : Json.Members}
    (readable : Metadata.read .toml (.table entries) = .ok members) :
    read .toml (.table (entriesOf (seed.itemsOf entries))) =
      .ok { seed with metadata := members } := by
  have all : entriesOf (seed.itemsOf entries) =
      Json.toEntries seed.members ++ [("metadata", .table entries)] := by
    rw [itemsOf, entriesOf_append, entriesOf_ofEntries, entriesOf, Item.toValue,
      entriesOf_ofEntries, entriesOf]
  have metadata : Field.readEntry (fields .toml)
        ⟨some seed.username, some seed.email, seed.roles, []⟩ ("metadata", .table entries) =
      .ok ⟨some seed.username, some seed.email, seed.roles, members⟩ :=
    bind_eq_ok_iff.mpr ⟨_, bind_eq_ok_iff.mpr ⟨_, readable, rfl⟩, rfl⟩
  have drafted : Field.readEntries (fields .toml) {} (entriesOf (seed.itemsOf entries)) =
      .ok ⟨some seed.username, some seed.email, seed.roles, members⟩ := by
    have own := readEntries_members seed
    rw [Field.readEntries] at own ⊢
    rw [all, List.foldlM_append]
    exact bind_eq_ok_iff.mpr ⟨_, own, bind_eq_ok_iff.mpr ⟨_, metadata, rfl⟩⟩
  exact bind_eq_ok_iff.mpr ⟨_, drafted, rfl⟩

theorem read_items (configurable : seed.Configurable) :
    read .toml (.table (entriesOf seed.items)) = .ok seed :=
  read_itemsOf (Metadata.read_toEntries configurable.ordered configurable.values)

end Seed

namespace Config

variable {config : Config}

theorem readSeeds_items {seeds : List Seed}
    (configurable : ∀ seed ∈ seeds, seed.Configurable) :
    readSeeds (.array (tablesOf (seeds.map Seed.items))) = .ok seeds := by
  have read : List.Forall₂ (fun value seed => Seed.read .toml value = .ok seed)
      (tablesOf (seeds.map Seed.items)) seeds := by
    induction seeds with
    | nil => exact .nil
    | cons seed seeds induction =>
        exact .cons (Seed.read_items (configurable seed List.mem_cons_self))
          (induction fun other inside => configurable other (List.mem_cons_of_mem seed inside))
  exact bind_eq_ok_iff.mpr ⟨_, rfl, mapM_eq_ok_iff.mpr read⟩

theorem read_root (configurable : ∀ seed ∈ config.users, seed.Configurable) :
    read (entriesOf (config.settings.withElements "users"
      (config.users.map Seed.items))) = .ok config := by
  obtain ⟨logging, memory, users⟩ := config
  have settings : Field.readEntries fields {} (entriesOf (settings ⟨logging, memory, users⟩)) =
      .ok ⟨logging, memory, []⟩ := rfl
  cases users with
  | nil => exact settings
  | cons seed seeds =>
      have readUsers : Field.readEntry fields ⟨logging, memory, []⟩
            ("users", .array (tablesOf ((seed :: seeds).map Seed.items))) =
          .ok ⟨logging, memory, seed :: seeds⟩ :=
        bind_eq_ok_iff.mpr
          ⟨_, bind_eq_ok_iff.mpr ⟨_, readSeeds_items configurable, rfl⟩, rfl⟩
      rw [Field.readEntries] at settings
      rw [read, Field.readEntries, Items.withElements, if_neg (by simp), entriesOf_append,
        List.foldlM_append]
      exact bind_eq_ok_iff.mpr ⟨_, settings, bind_eq_ok_iff.mpr ⟨_, readUsers, rfl⟩⟩

/-- A capacity that was accepted is far from the largest integer. -/
theorem capacity_lt_of_fault? (faultless : config.fault? = none) :
    config.memory.userCapacity < Numeral.signedBound := by
  have bound : config.memory.userCapacity ≤ maxUserCapacity := by
    unfold fault? at faultless
    split at faultless
    · contradiction
    split at faultless
    · contradiction
    split at faultless
    · contradiction
    split at faultless
    · contradiction
    · omega
  have limits : maxUserCapacity < Numeral.signedBound := by decide
  omega

/-- The text of a configuration reads back as the configuration. -/
theorem parse_text (valid : config.validate = .ok config)
    (configurable : ∀ seed ∈ config.users, seed.Configurable) :
    parse config.text = .ok config := by
  obtain ⟨_, faultless⟩ := validate_eq_ok_iff.mp valid
  have small := capacity_lt_of_fault? faultless
  exact parse_eq_ok_iff.mpr
    ⟨_, parse?_text small configurable, read_root configurable, faultless⟩

/-- Texts that look like the ends of strings, tables and lines stay in their fields. -/
theorem parse_text_of_hostile_texts :
    let metadata : Json.Members :=
      [ ("", .array [.object [("\x7d, x = \x7b", .integer (-9223372036854775808))], .array []]),
        ("\"\n[users", .string "\x7f'''\\u0022\r\n"),
        ("#", .boolean true) ]
    let users : List Seed :=
      [ ⟨"\"\nroles = [\"admin\"]\n#", "\"\"\"", some ["]", "]"], metadata⟩,
        ⟨"", "\\", none, []⟩ ]
    let config : Config := { users }
    config.validate = .ok config ∧ (∀ seed ∈ config.users, seed.Configurable) ∧
      parse config.text = .ok config := by
  intro metadata users config
  have valid : config.validate = .ok config :=
    validate_eq_ok_iff.mpr ⟨rfl, by decide⟩
  have ordered : metadata.Ordered := by
    unfold Json.Members.Ordered
    decide +kernel
  have values : Json.EverywhereMembers Json.Configurable metadata := by
    simp [metadata, Json.EverywhereMembers, Json.EverywhereItems, Json.Everywhere,
      Json.Configurable, Json.Members.Ordered, datetimeMarker]
  have configurable : ∀ seed ∈ config.users, seed.Configurable := by
    intro seed inside
    simp only [config, users, List.mem_cons, List.not_mem_nil, or_false] at inside
    rcases inside with rfl | rfl
    · exact ⟨ordered, values, by decide⟩
    · exact ⟨List.Pairwise.nil, trivial, by decide⟩
  exact ⟨valid, configurable, parse_text valid configurable⟩

end Config

end UserRegistry
