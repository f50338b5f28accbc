import UserRegistry.Proofs.ConfigAcceptance
import UserRegistry.Proofs.ConfigText
import UserRegistry.Proofs.DatetimeText
import UserRegistry.Proofs.DistinctKeys

/-!
# Date-time literals in metadata

In metadata a date-time becomes its canonical text.  That text is itself a literal of the
same date-time, so that it becomes itself, and two literals become the same text just when
they denote the same date-time.
-/

namespace UserRegistry

namespace Toml

variable {text rest : List Char} {value : Datetime}

/-! ## Values -/

theorem value?_of_spells (spells : Datetime.Spells text value)
    (delimited : Text.Delimited rest) (fuel depth : Nat) :
    value? (fuel + 1) depth (text ++ rest) = some (.datetime value, rest) := by
  have read := Datetime.literal?_of_spells spells delimited
  obtain ⟨c, tail, rfl, digit⟩ := Datetime.start_of_spells spells
  have own := (own_of_number (.inl digit)).2
  simp only [List.mem_cons, List.not_mem_nil, or_false, not_or] at own
  rw [List.cons_append] at read ⊢
  rw [value?_of_scalar own.2.2.2.1 own.2.2.2.2, scalar_of_number (.inl digit),
    numberOrDatetime?, read]

/-- A date-time in a document is spelled by the text that it is read from. -/
theorem spells_of_value? {fuel depth : Nat}
    (read : value? fuel depth text = some (.datetime value, rest)) :
    ∃ literal, text = literal ++ rest ∧ Datetime.Spells literal value := by
  cases fuel with
  | zero => contradiction
  | succ fuel =>
      have scalars : scalar text = some (.datetime value, rest) := by
        unfold value? at read
        split at read
        · contradiction
        · contradiction
        · obtain ⟨⟨_, _⟩, _, equality⟩ := Option.bind_eq_some_iff.mp read
          cases equality
        · split at read
          · cases read
          · obtain ⟨_, _, last⟩ := Option.bind_eq_some_iff.mp read
            obtain ⟨_, built, equality⟩ := Option.bind_eq_some_iff.mp last
            obtain ⟨_, _, table⟩ := Option.bind_eq_some_iff.mp built
            cases equality
            cases table
        · exact read
      rcases scalar_cases scalars with numeric | ⟨_, flag⟩ | ⟨_, string⟩ | ⟨date, same, read⟩
      · cases numeric
      · contradiction
      · contradiction
      · cases same
        exact Datetime.spells_of_literal? read

theorem skipBlanks_of_spells (spells : Datetime.Spells text value) (rest : List Char) :
    skipBlanks (text ++ rest) = text ++ rest := by
  obtain ⟨c, tail, rfl, digit⟩ := Datetime.start_of_spells spells
  exact skipBlanks_cons (own_of_number (.inl digit)).1 _

theorem readsAs_datetime (spells : Datetime.Spells text value) (key : String) :
    ReadsAs (quoted key ++ ' ' :: '=' :: ' ' :: text) (.assignment [key] (.datetime value)) := by
  apply readsAs_assignment_of_value (readsAsKey_quoted key)
    (Datetime.noReturn_of_spells spells)
  intro fuel rest enough
  obtain ⟨fuel, rfl⟩ := Nat.exists_eq_succ_of_ne_zero (Nat.ne_zero_of_lt enough)
  rw [skipBlanks_of_spells spells]
  exact value?_of_spells spells (Text.delimited_cons rest (by decide)) fuel nestingLimit

end Toml

/-! ## Configurations -/

namespace Seed

open Toml

variable {literal : List Char} {value : Datetime}

/-- A configuration text with one user, whose metadata binds one key to a literal. -/
def textWith (seed : Seed) (key : String) (literal : List Char) : String :=
  String.ofList (({ seed with metadata := [] } : Seed).written
    ++ Toml.assignment (quoted key) literal)

theorem lines_textWith (seed : Seed) (key : String) (spells : Datetime.Spells literal value) :
    Lines (seed.textWith key literal).toList
      ((seed.sectionsOf [(key, .datetime value)]).flatMap Section.statements) := by
  have configurable : ({ seed with metadata := [] } : Seed).Configurable :=
    ⟨List.Pairwise.nil, trivial, Nat.zero_le _⟩
  have lines := (lines_written configurable).append (.cons (readsAs_datetime spells key) .nil)
  have statements : (sectionsOf seed [(key, .datetime value)]).flatMap Section.statements =
      ({ seed with metadata := [] } : Seed).sections.flatMap Section.statements
        ++ [.assignment [key] (.datetime value)] := by
    simp [sectionsOf, sections, Section.statements, Section.ofEntries, plainAssignments,
      Json.toEntries, members]
  rw [statements, textWith, String.toList_ofList]
  simpa [assignment] using lines

theorem parse?_textWith (seed : Seed) (key : String) (spells : Datetime.Spells literal value) :
    Toml.parse? (seed.textWith key literal) =
      some [("users", .array [.table (entriesOf (seed.itemsOf [(key, .datetime value)]))])] := by
  have built := @build_sectionsOf seed [(key, .datetime value)] (List.nodup_singleton key) []
    rfl []
  have start : (seed.textWith key literal).toList.head? = some '[' := by
    rw [textWith, String.toList_ofList]
    rfl
  exact document?_of_lines (lines_textWith seed key spells) (by rw [start]; decide) built

/-- A user with a date-time in its metadata has the canonical text there. -/
theorem parse_textWith (seed : Seed) (key : String) (spells : Datetime.Spells literal value) :
    Config.parse (seed.textWith key literal) =
      .ok { users := [{ seed with metadata := [(key, .string value.text)] }] } := by
  let config : Config := { users := [{ seed with metadata := [(key, .string value.text)] }] }
  have readable : read .toml (.table (entriesOf (seed.itemsOf [(key, .datetime value)]))) =
      .ok { seed with metadata := [(key, .string value.text)] } :=
    read_itemsOf rfl
  have seeds : Config.readSeeds
        (.array [.table (entriesOf (seed.itemsOf [(key, .datetime value)]))]) =
      .ok config.users :=
    bind_eq_ok_iff.mpr ⟨_, rfl, mapM_eq_ok_iff.mpr (.cons readable .nil)⟩
  have root : Config.read
        [("users", .array [.table (entriesOf (seed.itemsOf [(key, .datetime value)]))])] =
      .ok config :=
    bind_eq_ok_iff.mpr
      ⟨_, bind_eq_ok_iff.mpr ⟨_, bind_eq_ok_iff.mpr ⟨_, seeds, rfl⟩, rfl⟩, rfl⟩
  rw [Config.parse_of_read (parse?_textWith seed key spells) root]
  exact Config.validate_of_defaultLogging (Nat.succ_pos _) (by decide)

end Seed

namespace Datetime

variable {value : Datetime}

theorem toList_text (value : Datetime) : value.text.toList = value.written := by
  rw [text, String.toList_ofList]

/-- In metadata a date-time literal becomes a literal of the same date, time and offset,
which becomes itself, and two literals become one text just when they denote the same. -/
theorem canonical_text_of_literals {fuel otherFuel depth otherDepth : Nat}
    {text otherText rest otherRest : List Char} {value otherValue : Datetime}
    (accepted : Toml.value? fuel depth text = some (.datetime value, rest))
    (otherAccepted : Toml.value? otherFuel otherDepth otherText =
      some (.datetime otherValue, otherRest)) :
    (∃ literal, text = literal ++ rest ∧ Spells literal value ∧
      ∀ (seed : Seed) (key : String), Config.parse (seed.textWith key literal) =
        .ok { users := [{ seed with metadata := [(key, .string value.text)] }] }) ∧
      Metadata.readValue .toml (.datetime value) = .ok (.string value.text) ∧
      Spells value.text.toList value ∧
      (∀ {fuel depth : Nat} {rest : List Char}, Text.Delimited rest →
        Toml.value? (fuel + 1) depth (value.text.toList ++ rest) =
          some (.datetime value, rest)) ∧
      (∀ (seed : Seed) (key : String), Config.parse (seed.textWith key value.text.toList) =
        .ok { users := [{ seed with metadata := [(key, .string value.text)] }] }) ∧
      (value.text = otherValue.text ↔ value = otherValue) := by
  obtain ⟨literal, written, spells⟩ := Toml.spells_of_value? accepted
  obtain ⟨_, _, otherSpells⟩ := Toml.spells_of_value? otherAccepted
  have valid := valid_of_spells spells
  have canonical : Spells value.text.toList value := by
    rw [toList_text]
    exact spells_written valid
  refine ⟨⟨literal, written, spells, ?_⟩, rfl, canonical, ?_, ?_, ?_⟩
  · intro seed key
    exact Seed.parse_textWith seed key spells
  · intro fuel depth rest delimited
    exact Toml.value?_of_spells canonical delimited fuel depth
  · intro seed key
    exact Seed.parse_textWith seed key canonical
  · exact text_eq_iff valid (valid_of_spells otherSpells)

/-- An offset of zero with a minus sign and ten digits, and the letter `z`. -/
theorem canonical_text_of_zero_offsets :
    let clock : Time := ⟨7, 32, 0, 123456789⟩
    let signed : Datetime := .instant ⟨1979, 5, 27⟩ clock (.ahead 0)
    let lettered : Datetime := .instant ⟨1979, 5, 27⟩ clock .utc
    Toml.value? 1 0 "1979-05-27 07:32:00.1234567899-00:00".toList =
        some (.datetime signed, []) ∧
      Toml.value? 1 0 "1979-05-27t07:32:00.123456789z".toList =
        some (.datetime lettered, []) ∧
      signed.text = "1979-05-27T07:32:00.123456789+00:00" ∧
      Spells signed.text.toList signed ∧ signed.text ≠ lettered.text := by
  intro clock signed lettered
  have accepted : Toml.value? 1 0 "1979-05-27 07:32:00.1234567899-00:00".toList =
      some (.datetime signed, []) := by
    rfl
  have otherAccepted : Toml.value? 1 0 "1979-05-27t07:32:00.123456789z".toList =
      some (.datetime lettered, []) := by
    rfl
  have written : signed.text = "1979-05-27T07:32:00.123456789+00:00" := by decide +kernel
  obtain ⟨_, _, spells, _, _, same⟩ := canonical_text_of_literals accepted otherAccepted
  refine ⟨accepted, otherAccepted, written, spells, ?_⟩
  intro equality
  exact absurd (same.mp equality) (by decide)

end Datetime

end UserRegistry
