import UserRegistry.Proofs.ConfigReading
import UserRegistry.Proofs.DistinctKeys
import UserRegistry.Proofs.FirstFaults
import UserRegistry.Proofs.IndependentFields
import UserRegistry.Proofs.SharedStores

/-!
# Accepted configurations

A text is refused at the first of three stages that refuses it: it is no document, some
part of the document is misread, or a condition on the values of the configuration fails.
Where in the document the faults are does not matter to which stage refuses it.
-/

namespace UserRegistry

namespace Config

/-! ## Documents that are misread -/

/-- A value that is misread as the list of seeds: it is no array, or some item of it is
misread, be it the last. -/
def SeedsMisread (value : Value) : Prop :=
  ∀ items, value = .array items → ∃ item ∈ items, Seed.Misread item

/-- An entry of a document that is misread, whatever the other entries are. -/
def Misread (entry : String × Value) : Prop :=
  (entry.1 = "logging" ∧ Field.MisreadIn Logging.fields entry.2) ∨
    (entry.1 = "memory" ∧ Field.MisreadIn Memory.fields entry.2) ∨
    (entry.1 = "users" ∧ SeedsMisread entry.2)

theorem logging_fails_iff {value : Value} :
    (∃ cause, Logging.read value = .error cause) ↔ Field.MisreadIn Logging.fields value :=
  Field.readRecord_fails_iff (by simp [Logging.fields])

theorem memory_fails_iff {value : Value} :
    (∃ cause, Memory.read value = .error cause) ↔ Field.MisreadIn Memory.fields value :=
  Field.readRecord_fails_iff (by simp [Memory.fields])

theorem readSeeds_fails_iff {value : Value} :
    (∃ cause, readSeeds value = .error cause) ↔ SeedsMisread value := by
  unfold SeedsMisread
  simp only [← Seed.read_fails_iff, ← mapM_fails_iff]
  cases value with
  | array items => simp [readSeeds, Value.readSequence, bind, Except.bind]
  | _ => simp [readSeeds, Value.readSequence, bind, Except.bind]

theorem misreads_iff {entry : String × Value} :
    Field.Misreads fields entry ↔ Misread entry := by
  obtain ⟨key, value⟩ := entry
  unfold Misread
  rw [← logging_fails_iff, ← memory_fails_iff, ← readSeeds_fails_iff,
    Field.misreads_iff_exists]
  simp only [misreadsFor_iff]
  constructor
  · intro misreads
    obtain ⟨cause, misread⟩ := misreads
    cases misread with
    | logging failed => exact .inl ⟨rfl, cause, failed⟩
    | memory failed => exact .inr (.inl ⟨rfl, cause, failed⟩)
    | users failed => exact .inr (.inr ⟨rfl, cause, failed⟩)
  · rintro (⟨rfl, cause, failed⟩ | ⟨rfl, cause, failed⟩ | ⟨rfl, cause, failed⟩)
    · exact ⟨cause, .logging failed⟩
    · exact ⟨cause, .memory failed⟩
    · exact ⟨cause, .users failed⟩

theorem read_fails_iff {entries : Entries} :
    (∃ cause, read entries = .error cause) ↔ ∃ entry ∈ entries, Misread entry := by
  simp only [read, Field.readEntries_fails_iff, misreads_iff]

/-! ## Conditions on the values -/

/-- What a configuration must meet. -/
structure Valid (config : Config) : Prop where
  level : config.logging.level ∈ ["trace", "debug", "info", "warn", "error"]
  format : config.logging.format ∈ ["json", "console"]
  nonzero : 1 ≤ config.memory.userCapacity
  bounded : config.memory.userCapacity ≤ Nat.pow 2 24

/-- The first condition that a configuration does not meet. -/
inductive Faulty (config : Config) : Fault → Prop where
  | level : config.logging.level ∉ levels → Faulty config (.level config.logging.level)
  | format : config.logging.level ∈ levels → config.logging.format ∉ formats →
      Faulty config (.format config.logging.format)
  | noCapacity : config.logging.level ∈ levels → config.logging.format ∈ formats →
      config.memory.userCapacity = 0 → Faulty config .noCapacity
  | excessiveCapacity : config.logging.level ∈ levels → config.logging.format ∈ formats →
      Nat.pow 2 24 < config.memory.userCapacity →
      Faulty config (.excessiveCapacity config.memory.userCapacity)

theorem fault?_eq_some_iff {config : Config} {fault : Fault} :
    config.fault? = some fault ↔ Faulty config fault := by
  constructor
  · intro found
    unfold fault? at found
    split at found
    · rename_i level
      cases found
      exact .level level
    · rename_i level
      have level := not_not.mp level
      split at found
      · rename_i format
        cases found
        exact .format level format
      · rename_i format
        have format := not_not.mp format
        split at found
        · rename_i zero
          cases found
          exact .noCapacity level format zero
        · split at found
          · rename_i excessive
            cases found
            exact .excessiveCapacity level format excessive
          · contradiction
  · intro faulty
    unfold fault?
    cases faulty with
    | level level => simp [level]
    | format level format => simp [level, format]
    | noCapacity level format zero => simp [level, format, zero]
    | excessiveCapacity level format excessive =>
        have positive : config.memory.userCapacity ≠ 0 :=
          Nat.ne_of_gt (Nat.zero_lt_of_lt excessive)
        have excessive : maxUserCapacity < config.memory.userCapacity := excessive
        simp [level, format, positive, excessive]

theorem fault?_eq_none_iff {config : Config} : config.fault? = none ↔ config.Valid := by
  constructor
  · intro faultless
    have sound (fault : Fault) : ¬ Faulty config fault := by
      intro faulty
      rw [fault?_eq_some_iff.mpr faulty] at faultless
      contradiction
    have level := not_not.mp fun other => sound _ (.level other)
    have format := not_not.mp fun other => sound _ (.format level other)
    refine ⟨level, format, ?_, ?_⟩
    · exact Nat.pos_of_ne_zero fun zero => sound _ (.noCapacity level format zero)
    · exact Nat.not_lt.mp fun excessive => sound _ (.excessiveCapacity level format excessive)
  · intro valid
    cases found : config.fault? with
    | none => rfl
    | some fault =>
        cases fault?_eq_some_iff.mp found with
        | level other => exact absurd valid.level other
        | format _ other => exact absurd valid.format other
        | noCapacity _ _ zero => exact absurd zero (Nat.ne_of_gt valid.nonzero)
        | excessiveCapacity _ _ excessive => exact absurd valid.bounded (Nat.not_le.mpr excessive)

theorem defaultLogging_valid :
    ({} : Logging).level ∈ levels ∧ ({} : Logging).format ∈ formats := by
  decide

/-- With the settings for logging left out only the capacity can be at fault. -/
theorem validate_of_defaultLogging {memory : Memory} {users : List Seed}
    (nonzero : 0 < memory.userCapacity) (bounded : memory.userCapacity ≤ maxUserCapacity) :
    ({ memory := memory, users := users } : Config).validate =
      .ok { memory := memory, users := users } :=
  validate_eq_ok_iff.mpr ⟨rfl, fault?_eq_none_iff.mpr
    ⟨defaultLogging_valid.1, defaultLogging_valid.2, nonzero, bounded⟩⟩

/-! ## Stages -/

/-- The first stage that refuses a text, with the error that it gives.  A stage is reached
when the earlier ones pass, and later ones are not looked at. -/
inductive Refused (text : String) : LoadError → Prop where
  | noDocument : Toml.parse? text = none → Refused text (.malformed none)
  | misread {entries : Entries} {cause : ReadError} : Toml.parse? text = some entries →
      read entries = .error cause → Refused text (.malformed (some cause))
  | faulty {entries : Entries} {config : Config} {fault : Fault} :
      Toml.parse? text = some entries → read entries = .ok config → Faulty config fault →
      Refused text (.invalid fault)

variable {text : String} {entries : Entries} {config : Config}

theorem parse_of_noDocument (noDocument : Toml.parse? text = none) :
    parse text = .error (.malformed none) := by
  rw [parse, noDocument]

theorem parse_of_misread {cause : ReadError} (document : Toml.parse? text = some entries)
    (misread : read entries = .error cause) :
    parse text = .error (.malformed (some cause)) := by
  rw [parse, document]
  simp only [ofDocument, misread]
  rfl

theorem parse_of_read (document : Toml.parse? text = some entries)
    (result : read entries = .ok config) : parse text = config.validate := by
  rw [parse, document]
  simp only [ofDocument, result]
  rfl

theorem validate_of_faulty {fault : Fault} (faulty : Faulty config fault) :
    config.validate = .error (.invalid fault) := by
  rw [validate, fault?_eq_some_iff.mpr faulty]

theorem parse_of_refused {error : LoadError} (refused : Refused text error) :
    parse text = .error error := by
  cases refused with
  | noDocument noDocument => exact parse_of_noDocument noDocument
  | misread document misread => exact parse_of_misread document misread
  | faulty document result faulty =>
      rw [parse_of_read document result, validate_of_faulty faulty]

theorem parse_eq_ok_iff_valid :
    parse text = .ok config ↔
      ∃ entries, Toml.parse? text = some entries ∧ read entries = .ok config ∧ config.Valid := by
  simp only [parse_eq_ok_iff, fault?_eq_none_iff]

theorem refused_of_parse {error : LoadError} (result : parse text = .error error) :
    Refused text error := by
  have refused : ∃ error, Refused text error := by
    cases document : Toml.parse? text with
    | none => exact ⟨_, .noDocument document⟩
    | some entries =>
        cases reading : read entries with
        | error cause => exact ⟨_, .misread document reading⟩
        | ok config =>
            cases found : config.fault? with
            | some fault => exact ⟨_, .faulty document reading (fault?_eq_some_iff.mp found)⟩
            | none =>
                have accepted := parse_eq_ok_iff.mpr ⟨entries, document, reading, found⟩
                rw [result] at accepted
                contradiction
  obtain ⟨other, refused⟩ := refused
  have same := parse_of_refused refused
  rw [result] at same
  cases same
  exact refused

/-- Documents that read as the same configuration, or both fail to be read, are refused at
the same stage, and for the same fault of their values, or are the same configuration. -/
theorem parse_of_concur {other : String} {otherEntries : Entries}
    (document : Toml.parse? text = some entries)
    (otherDocument : Toml.parse? other = some otherEntries)
    (alike : Concur (read entries) (read otherEntries)) :
    (∀ config, parse text = .ok config ↔ parse other = .ok config) ∧
      ((∃ cause, parse text = .error (.malformed cause)) ↔
        ∃ cause, parse other = .error (.malformed cause)) ∧
      ∀ fault, parse text = .error (.invalid fault) ↔ parse other = .error (.invalid fault) := by
  cases reading : read entries with
  | ok config =>
      have otherReading := (alike config).mp reading
      rw [parse_of_read document reading, parse_of_read otherDocument otherReading]
      exact ⟨fun _ => Iff.rfl, Iff.rfl, fun _ => Iff.rfl⟩
  | error cause =>
      obtain ⟨otherCause, otherReading⟩ := alike.fails_iff.mp ⟨cause, reading⟩
      rw [parse_of_misread document reading, parse_of_misread otherDocument otherReading]
      simp

/-- The order of the tables and keys in a document is of no importance. -/
theorem parse_perm {other : String} {permuted : Entries}
    (document : Toml.parse? text = some entries)
    (otherDocument : Toml.parse? other = some permuted) (same : entries.Perm permuted) :
    (∀ config, parse text = .ok config ↔ parse other = .ok config) ∧
      ((∃ cause, parse text = .error (.malformed cause)) ↔
        ∃ cause, parse other = .error (.malformed cause)) ∧
      ∀ fault, parse text = .error (.invalid fault) ↔ parse other = .error (.invalid fault) :=
  parse_of_concur document otherDocument
    (fields_independent.concur_of_perm same (Toml.nodup_of_parse? document) {})

theorem valid_of_parse (accepted : parse text = .ok config) : config.Valid := by
  obtain ⟨_, _, _, valid⟩ := parse_eq_ok_iff_valid.mp accepted
  exact valid

/-- No accepted configuration asks for a store without room or with too much of it. -/
theorem Valid.capacity_ofConfig (valid : config.Valid) :
    1 ≤ (Registry.ofConfig config).users.capacity ∧
      (Registry.ofConfig config).users.capacity ≤ 16777216 :=
  ⟨valid.nonzero, valid.bounded⟩

theorem valid_of_load {path : String} {found : Except FileFault ByteArray}
    (loaded : load path found = .ok config) : config.Valid := by
  cases found with
  | error fault => contradiction
  | ok bytes =>
      rw [load] at loaded
      split at loaded
      · contradiction
      · exact valid_of_parse loaded

end Config

/-! ## Loaded configurations -/

/-- The configuration that was loaded last. -/
def Stores.config? (stores : Stores) : Option Config :=
  stores.loaded?.map Prod.fst

theorem Stores.config?_setCurrent (store : Store) (stores : Stores) :
    (stores.setCurrent store).config? = stores.config? := by
  cases stores <;> rfl

theorem Stores.config?_setLoaded (store : Store) (stores : Stores) :
    (stores.setLoaded store).config? = stores.config? := by
  cases stores <;> rfl

theorem Stores.config?_renew (stores : Stores) : stores.renew.config? = stores.config? := by
  cases stores <;> rfl

namespace Session

variable {source : Source} {session : Session}

/-- Only a load brings a configuration, and it is one that was accepted. -/
theorem config?_step (source : Source) (session : Session) (step : Step) :
    (session.step source step).1.stores.config? = session.stores.config? ∨
      ∃ text config, Config.parse text = .ok config ∧
        (session.step source step).1.stores.config? = some config := by
  cases step with
  | onUser step => exact .inl (congrArg Stores.config? (stores_stepUser source session step))
  | onStore step =>
      rw [Session.step, stores_stepStore]
      exact .inl (Stores.config?_setCurrent _ _)
  | onState step =>
      cases step with
      | renew => exact .inl (Stores.config?_renew session.stores)
      | load text =>
          cases parsed : Config.parse text with
          | error cause =>
              rw [step_load_of_refused parsed]
              exact .inl rfl
          | ok config =>
              refine .inr ⟨text, config, parsed, ?_⟩
              rw [stores_load_of_parsed source session parsed]
              rfl
      | seed seeds =>
          cases loaded : session.stores.loaded? with
          | none => exact .inl (congrArg Stores.config? (stores_seed_of_unloaded loaded seeds))
          | some pair =>
              obtain ⟨config, store⟩ := pair
              rw [stores_seed_of_loaded loaded]
              exact .inl (Stores.config?_setLoaded _ _)

/-- The configuration that was loaded last is valid, if there is one. -/
def ConfigValid (session : Session) : Prop :=
  ∀ config, session.stores.config? = some config → config.Valid

theorem ConfigValid.step (valid : session.ConfigValid) (step : Step) :
    (session.step source step).1.ConfigValid := by
  intro config found
  rcases config?_step source session step with kept | ⟨text, loaded, parsed, brought⟩
  · exact valid config (kept.symm.trans found)
  · rw [brought] at found
    cases found
    exact Config.valid_of_parse parsed

theorem ConfigValid.run (valid : session.ConfigValid) (steps : List Step) :
    (session.run source steps).1.ConfigValid := by
  induction steps generalizing session with
  | nil => exact valid
  | cons step steps induction => exact induction (valid.step step)

theorem configValid_start : start.ConfigValid := by
  intro config found
  contradiction

end Session

namespace Config

/-- A text is accepted as the configuration that its document reads as, exactly when that
one is valid; otherwise it is refused at the first stage that refuses it.  A document is
misread when an entry of it is, wherever that stands, so that the order of its entries
changes neither the stage nor the accepted configuration.  Conditions on the values are
not about seeds.  The store of an accepted configuration is made with a capacity from 1
up to 2 to the 24th.  And every configuration that a file gives or a session holds is
valid. -/
theorem accepted_or_refused_at_first_stage :
    (∀ text config, parse text = .ok config ↔
      ∃ entries, Toml.parse? text = some entries ∧ read entries = .ok config ∧
        config.Valid) ∧
      (∀ text error, parse text = .error error ↔ Refused text error) ∧
      (∀ entries, (∃ cause, read entries = .error cause) ↔
        ∃ entry ∈ entries, Misread entry) ∧
      (∀ text other entries permuted, Toml.parse? text = some entries →
        Toml.parse? other = some permuted → entries.Perm permuted →
        (∀ config, parse text = .ok config ↔ parse other = .ok config) ∧
          ((∃ cause, parse text = .error (.malformed cause)) ↔
            ∃ cause, parse other = .error (.malformed cause)) ∧
          ∀ fault, parse text = .error (.invalid fault) ↔
            parse other = .error (.invalid fault)) ∧
      (∀ (config : Config) seeds, ({ config with users := seeds } : Config).fault? =
        config.fault?) ∧
      (∀ text config, parse text = .ok config →
        1 ≤ (Registry.ofConfig config).users.capacity ∧
          (Registry.ofConfig config).users.capacity ≤ 16777216) ∧
      (∀ path found config, load path found = .ok config → config.Valid) ∧
      ∀ source steps config, (Session.start.run source steps).1.stores.config? = some config →
        config.Valid := by
  refine ⟨?_, ?_, ?_, ?_, ?_, ?_, ?_, ?_⟩
  · intro text config
    exact parse_eq_ok_iff_valid
  · intro text error
    exact ⟨refused_of_parse, parse_of_refused⟩
  · intro entries
    exact read_fails_iff
  · intro text other entries permuted document otherDocument same
    exact parse_perm document otherDocument same
  · intro config seeds
    rfl
  · intro text config accepted
    exact (valid_of_parse accepted).capacity_ofConfig
  · intro path found config loaded
    exact valid_of_load loaded
  · intro source steps
    exact Session.configValid_start.run steps

/-- No capacity, an unknown level, and a last seed without an email. -/
def threeFaults : String :=
  "[memory]\nuser_capacity = 0\n[logging]\nlevel = 'loud'\n" ++
    "[[users]]\nusername = 'u'\nemail = ''\n[[users]]\nusername = 'v'\n"

/-- The last seed comes before the level and the capacity. -/
theorem refused_for_last_seed_first :
    Refused threeFaults (.malformed (some (.missingField "email"))) ∧
      ∀ config, parse threeFaults ≠ .ok config := by
  have told : (parse threeFaults).map (fun _ => ()) =
      .error (.malformed (some (.missingField "email"))) := by decide +kernel
  cases parsed : parse threeFaults with
  | ok config =>
      rw [parsed] at told
      contradiction
  | error error =>
      rw [parsed] at told
      cases told
      exact ⟨(accepted_or_refused_at_first_stage.2.1 _ _).mp parsed, by simp⟩

end Config

end UserRegistry
