import UserRegistry.Config.Loading
import UserRegistry.Proofs.SeedReading

/-!
# Configurations that were read

A text is accepted exactly when it is a document that reads as a configuration without
fault.  The seeds of a configuration are read, one by one and in order, from the items
of the document's last entry for users.
-/

namespace UserRegistry

namespace Config

theorem ofDocument_eq_ok_iff {entries : Entries} {config : Config} :
    ofDocument entries = .ok config ↔ read entries = .ok config := by
  unfold ofDocument
  cases read entries with
  | error cause => simp
  | ok found => simp

theorem validate_eq_ok_iff {config accepted : Config} :
    config.validate = .ok accepted ↔ config = accepted ∧ config.fault? = none := by
  unfold validate
  cases config.fault? with
  | none => simp
  | some fault => simp

theorem parse_eq_ok_iff {text : String} {config : Config} :
    parse text = .ok config ↔
      ∃ entries, Toml.parse? text = some entries ∧ read entries = .ok config ∧
        config.fault? = none := by
  unfold parse
  cases Toml.parse? text with
  | none => simp
  | some entries =>
      constructor
      · intro result
        obtain ⟨found, document, valid⟩ := bind_eq_ok_iff.mp result
        obtain ⟨rfl, faultless⟩ := validate_eq_ok_iff.mp valid
        exact ⟨entries, rfl, ofDocument_eq_ok_iff.mp document, faultless⟩
      · rintro ⟨same, equality, document, faultless⟩
        cases equality
        exact bind_eq_ok_iff.mpr
          ⟨config, ofDocument_eq_ok_iff.mpr document,
            validate_eq_ok_iff.mpr ⟨rfl, faultless⟩⟩

/-! ## Parts and their fields -/

theorem fields_own_users : Field.Owns fields "users" Config.users readSeeds := by
  refine .of_put [_, _] [] (fun _ _ _ read => read) ?_
  exact ⟨Field.spares_of_put (by decide) _ fun _ _ => rfl,
    Field.spares_of_put (by decide) _ fun _ _ => rfl⟩

/-! ## Seeds -/

/-- The values that a document lists as its users. -/
def seedValues (entries : Entries) : List Value :=
  match Field.lastValue? "users" entries with
  | some (.array items) => items
  | _ => []

/-- The seeds of a configuration are read from the listed users in turn. -/
theorem seeds_of_read {entries : Entries} {config : Config}
    (result : read entries = .ok config) :
    List.Forall₂ (fun value seed => Seed.read .toml value = .ok seed)
      (seedValues entries) config.users := by
  have users := fields_own_users.part_of_readEntries result
  unfold seedValues
  cases last : Field.lastValue? "users" entries with
  | none =>
      rw [last] at users
      rw [users]
      exact .nil
  | some value =>
      rw [last] at users
      obtain ⟨items, sequence, seeds⟩ := bind_eq_ok_iff.mp users
      cases value with
      | array listed =>
          cases sequence
          exact mapM_eq_ok_iff.mp seeds
      | _ => contradiction

end Config

end UserRegistry
