import UserRegistry.Proofs.Members
import UserRegistry.Proofs.Records
import UserRegistry.Seed

/-!
# Seeds that were read

However a seed is written, it is read from entries, and its metadata is read from the
last of them that is named so.  Hence the metadata of a seed that was read, from a
configuration or from JSON, has its keys in order.  A seed is refused when one of its
entries is misread or the username or the email is missing.
-/

namespace UserRegistry

namespace Metadata

theorem ordered_of_read {format : Format} {value : Value}
    {members : Json.Members} (result : read format value = .ok members) :
    members.Ordered := by
  cases value with
  | table entries =>
      rw [read] at result
      cases readable : readEntries format entries with
      | error cause =>
          rw [readable] at result
          contradiction
      | ok found =>
          rw [readable] at result
          cases result
          exact Json.Members.ordered_ofEntries found
  | datetime datetime =>
      cases result
      exact List.pairwise_singleton _ _
  | null => contradiction
  | boolean => contradiction
  | integer => contradiction
  | float => contradiction
  | string => contradiction
  | array => contradiction

theorem readValue_table {format : Format} {entries : Entries}
    (unmarked : isMarked entries = false) :
    readValue format (.table entries) =
      (readEntries format entries).map fun members =>
        .object (Json.Members.ofEntries members) := by
  rw [readValue, unmarked]
  rfl

end Metadata

namespace Seed

theorem fields_distinct (format : Format) : ((fields format).map Field.name).Nodup := by
  simp [fields]

theorem readRoles_strings (format : Format) (roles : List String) :
    readRoles format (.array (Json.toValues (roles.map .string))) = .ok (some roles) := by
  have texts : List.Forall₂ (fun value role => Value.readString format value = .ok role)
      (Json.toValues (roles.map .string)) roles := by
    induction roles with
    | nil => exact .nil
    | cons role roles induction => exact .cons rfl induction
  exact bind_eq_ok_iff.mpr ⟨_, rfl, bind_eq_ok_iff.mpr ⟨_, mapM_eq_ok_iff.mpr texts, rfl⟩⟩

variable {format : Format} {value : Value} {seed : Seed}

/-- An array of a length that is no fault is read as the table of its items. -/
theorem readArray_eq_readTable {items : List Value} (enough : 2 ≤ items.length)
    (fits : format = .json → items.length ≤ 4) :
    readArray format items =
      readTable format (["username", "email", "roles", "metadata"].zip items) := by
  have notFew : ¬ items.length < 2 := Nat.not_lt.mpr enough
  have notSurplus : ¬ (format = .json ∧ 4 < items.length) := by
    intro surplus
    exact absurd (fits surplus.1) (Nat.not_le.mpr surplus.2)
  rw [readArray, readTable, Field.readItems_eq_readEntries _ (fields_distinct format)]
  simp only [notFew, notSurplus, if_false]
  apply bind_congr
  intro draft
  cases draft.finish <;> rfl

/-- A table and an array alike are read as entries, which give a draft of the seed. -/
theorem draft_of_read (result : read format value = .ok seed) :
    ∃ draft,
      Field.readEntries (fields format) {} (Field.entriesOf (fields format) value) =
          .ok draft ∧
        draft.finish = .ok seed := by
  cases value with
  | table entries => exact bind_eq_ok_iff.mp result
  | array items =>
      obtain ⟨draft, drafted, rest⟩ := bind_eq_ok_iff.mp result
      rw [Field.readItems_eq_readEntries _ (fields_distinct format)] at drafted
      refine ⟨draft, drafted, ?_⟩
      split at rest
      · contradiction
      · obtain ⟨finishedSeed, finished, last⟩ := bind_eq_ok_iff.mp rest
        split at last
        · contradiction
        · cases last
          exact finished
  | datetime datetime => exact bind_eq_ok_iff.mp result
  | null => contradiction
  | boolean => contradiction
  | integer => contradiction
  | float => contradiction
  | string => contradiction

theorem fields_own_metadata (format : Format) :
    Field.Owns (fields format) "metadata" Draft.metadata (Metadata.read format) := by
  refine .of_put [_, _, _] [] (fun _ _ _ read => read) ?_
  exact ⟨Field.spares_of_put (by decide) _ fun _ _ => rfl,
    Field.spares_of_put (by decide) _ fun _ _ => rfl,
    Field.spares_of_put (by decide) _ fun _ _ => rfl⟩

theorem Draft.finish_eq_ok_iff {draft : Draft} :
    draft.finish = .ok seed ↔
      draft = ⟨some seed.username, some seed.email, seed.roles, seed.metadata⟩ := by
  obtain ⟨username, email, roles, metadata⟩ := draft
  obtain ⟨seedUsername, seedEmail, seedRoles, seedMetadata⟩ := seed
  unfold finish
  cases username with
  | none => simp
  | some username =>
      cases email with
      | none => simp
      | some email => simp

theorem metadata_of_read (result : read format value = .ok seed) :
    match Field.lastValue? "metadata" (Field.entriesOf (fields format) value) with
    | none => seed.metadata = []
    | some held => Metadata.read format held = .ok seed.metadata := by
  obtain ⟨draft, drafted, finished⟩ := draft_of_read result
  obtain rfl := Draft.finish_eq_ok_iff.mp finished
  exact (fields_own_metadata format).part_of_readEntries drafted

theorem ordered_of_read (result : read format value = .ok seed) :
    seed.metadata.Ordered := by
  have metadata := metadata_of_read result
  split at metadata
  · rw [metadata]
    exact List.Pairwise.nil
  · exact Metadata.ordered_of_read metadata

/-! ## Seeds that are refused -/

theorem fields_own_username (format : Format) :
    Field.Owns (fields format) "username" Draft.username
      fun value => (value.readString format).map some := by
  refine .of_put [] [_, _, _] (fun _ text _ read => map_eq_ok_iff.mpr ⟨text, read, rfl⟩) ?_
  exact ⟨Field.spares_of_put (by decide) _ fun _ _ => rfl,
    Field.spares_of_put (by decide) _ fun _ _ => rfl,
    Field.spares_of_put (by decide) _ fun _ _ => rfl⟩

theorem fields_own_email (format : Format) :
    Field.Owns (fields format) "email" Draft.email
      fun value => (value.readString format).map some := by
  refine .of_put [_] [_, _] (fun _ text _ read => map_eq_ok_iff.mpr ⟨text, read, rfl⟩) ?_
  exact ⟨Field.spares_of_put (by decide) _ fun _ _ => rfl,
    Field.spares_of_put (by decide) _ fun _ _ => rfl,
    Field.spares_of_put (by decide) _ fun _ _ => rfl⟩

theorem Draft.finish_fails_iff (draft : Draft) :
    (∃ cause, draft.finish = .error cause) ↔ draft.username = none ∨ draft.email = none := by
  unfold Draft.finish
  cases draft.username with
  | none => simp
  | some username =>
      cases draft.email with
      | none => simp
      | some email => simp

/-- A table is refused as a seed when an entry is misread, or a name is missing that has
no default. -/
theorem readTable_fails_iff {entries : Entries} :
    (∃ cause, readTable format entries = .error cause) ↔
      (∃ entry ∈ entries, Field.Misreads (fields format) entry) ∨
        ∃ name ∈ ["username", "email"], name ∉ entries.map Prod.fst := by
  rw [readTable, ← Field.readEntries_fails_iff {}]
  cases drafted : Field.readEntries (fields format) {} entries with
  | error cause => simp [bind, Except.bind]
  | ok draft =>
      have username := (fields_own_username format).eq_none_iff rfl drafted
      have email := (fields_own_email format).eq_none_iff rfl drafted
      have finished := draft.finish_fails_iff
      rw [username, email] at finished
      simpa [bind, Except.bind] using finished

/-- An array is refused as a seed when it is as the table of its items. -/
theorem readArray_fails_iff {items : List Value} :
    (∃ cause, readArray .toml items = .error cause) ↔
      ∃ cause, readTable .toml (((fields .toml).map Field.name).zip items) = .error cause := by
  by_cases enough : 2 ≤ items.length
  · rw [readArray_eq_readTable enough (by simp)]
    rfl
  · have few : items.length < 2 := Nat.not_le.mp enough
    have noEmail : "email" ∉ (((fields .toml).map Field.name).zip items).map Prod.fst :=
      Field.not_mem_keys_zip (fields_distinct .toml) rfl (Nat.le_of_lt_succ few)
    have array : ∃ cause, readArray .toml items = .error cause := by
      rw [readArray]
      cases Field.readItems {} (fields .toml) items with
      | error cause => exact ⟨cause, rfl⟩
      | ok draft => exact ⟨_, if_pos few⟩
    apply iff_of_true array
    exact readTable_fails_iff.mpr (.inr ⟨"email", by simp, noEmail⟩)

/-- A value of a configuration that is misread as a seed. -/
def Misread (value : Value) : Prop :=
  Field.MisreadIn (fields .toml) value ∨
    ∃ name ∈ ["username", "email"],
      name ∉ (Field.entriesOf (fields .toml) value).map Prod.fst

theorem read_fails_iff :
    (∃ cause, read .toml value = .error cause) ↔ Misread value := by
  unfold read Misread Field.MisreadIn Field.entriesOf Value.IsRecord
  cases value with
  | table entries =>
      simp only [not_true_eq_false, false_or]
      exact readTable_fails_iff
  | datetime datetime =>
      simp only [not_true_eq_false, false_or]
      exact readTable_fails_iff
  | array items =>
      simp only [not_true_eq_false, false_or]
      exact readArray_fails_iff.trans readTable_fails_iff
  | null => simp
  | boolean => simp
  | integer => simp
  | float => simp
  | string => simp

end Seed

end UserRegistry
