import Mathlib.Data.Nat.Find
import UserRegistry.Proofs.Members
import UserRegistry.Proofs.Roles
import UserRegistry.Proofs.StoreTable
import UserRegistry.Seeding

/-!
# The outcome of seeding

Seeding stops at the first seed whose new identifier is taken, that is, filed in the
store beforehand or given to an earlier seed.  Up to there it files exactly one user
per seed behind the entries that were there.  The user whose identifier is taken is
still made, so that it uses up an identifier and a time.
-/

namespace UserRegistry

/-- The user that a seed describes, with an identifier and a creation time. -/
def Seed.user (seed : Seed) (id : Uuid) (createdAt : Instant) : User :=
  { id, username := seed.username, email := seed.email, createdAt
    roles := (seed.roles.getD []).eraseDups
    metadata := .ofEntries seed.metadata }

theorem SeedingError.message_eq (error : SeedingError) :
    error.message = "Failed to seed user '" ++ error.seed.username ++ "'" := by
  simp [message, String.append_assoc]

namespace Source

/-- The identifier of a source's user number `n`. -/
def newId (source : Source) (n : Nat) : Uuid :=
  .random (source.bits n)

theorem sow_eq (source : Source) (n : Nat) (seed : Seed) :
    source.sow n seed = seed.user (source.newId n) (source.clock n) := by
  rw [Seed.user, ← Roles.ofList_eq_eraseDups]
  rfl

@[simp] theorem id_sow (source : Source) (n : Nat) (seed : Seed) :
    (source.sow n seed).id = source.newId n :=
  rfl

/-- The entries for seeds of which the first is the source's user number
`created`. -/
def entries (source : Source) (created : Nat) (seeds : List Seed) :
    List (Uuid × User) :=
  seeds.mapIdx fun position seed =>
    (source.newId (created + position),
      seed.user (source.newId (created + position)) (source.clock (created + position)))

theorem entries_cons (source : Source) (created : Nat) (seed : Seed)
    (seeds : List Seed) :
    source.entries created (seed :: seeds) =
      (source.newId created, source.sow created seed) ::
        source.entries (created + 1) seeds := by
  rw [entries, List.mapIdx_cons, sow_eq, entries]
  simp only [Nat.add_zero, Nat.add_assoc, Nat.add_comm 1]

end Source

namespace Store

variable {store next : Store} {source : Source} {created : Nat}

/-! ## Seeding step by step -/

theorem sow_cons_of_refused {seed : Seed} {cause : StoreError} (seeds : List Seed)
    (refused : store.insert (source.sow created seed) = .error cause) :
    store.sow source created (seed :: seeds) =
      ⟨store, created + 1, [], some ⟨seed, cause⟩⟩ := by
  simp [sow, refused]

theorem sow_cons_of_inserted {seed : Seed} (seeds : List Seed)
    (inserted : store.insert (source.sow created seed) = .ok next) :
    store.sow source created (seed :: seeds) =
      { next.sow source (created + 1) seeds with
        stored := source.sow created seed ::
          (next.sow source (created + 1) seeds).stored } := by
  simp [sow, inserted]

/-- What every insertion of a new user keeps, seeding keeps, however far it gets. -/
theorem sow_keeps (property : Store → Prop) (holds : property store)
    (keep : ∀ {store next : Store} {n : Nat} {seed : Seed},
      store.insert (source.sow n seed) = .ok next → property store →
        property next)
    (seeds : List Seed) : property (store.sow source created seeds).store := by
  induction seeds generalizing store created with
  | nil => exact holds
  | cons seed seeds induction =>
      cases attempt : store.insert (source.sow created seed) with
      | error cause =>
          rw [sow_cons_of_refused seeds attempt]
          exact holds
      | ok next =>
          rw [sow_cons_of_inserted seeds attempt]
          exact induction (keep attempt holds)

theorem get?_sow {id : Uuid} {user : User} (found : store.get? id = some user)
    (seeds : List Seed) :
    (store.sow source created seeds).store.get? id = some user := by
  refine sow_keeps (fun store => store.get? id = some user) found ?_ seeds
  intro store next n seed inserted found
  rw [get?_insert inserted, if_neg, found]
  rintro rfl
  obtain ⟨absent, _⟩ := insert_eq_ok_iff.mp inserted
  rw [absent] at found
  contradiction

theorem cause_of_failure {seeds : List Seed} {error : SeedingError}
    (failure : (store.sow source created seeds).failure = some error) :
    ∃ n, error.cause = .duplicateUser (source.newId n) := by
  induction seeds generalizing store created with
  | nil => contradiction
  | cons seed seeds induction =>
      cases attempt : store.insert (source.sow created seed) with
      | error cause =>
          rw [sow_cons_of_refused seeds attempt] at failure
          cases failure
          exact ⟨created, (insert_eq_error_iff.mp attempt).2⟩
      | ok next =>
          rw [sow_cons_of_inserted seeds attempt] at failure
          exact induction failure

/-! ## Taken identifiers -/

/-- Whether the identifier for the seed at `position` is filed already or given to
an earlier seed. -/
def Taken (store : Store) (source : Source) (created position : Nat) : Prop :=
  store.contains (source.newId (created + position)) = true ∨
    ∃ earlier < position,
      source.newId (created + earlier) = source.newId (created + position)

theorem taken_zero :
    store.Taken source created 0 ↔
      store.contains (source.newId created) = true := by
  simp [Taken]

/-- Once a seed is stored, what is taken for the seeds after it is what was taken
for them before. -/
theorem taken_succ {seed : Seed}
    (inserted : store.insert (source.sow created seed) = .ok next)
    (position : Nat) :
    next.Taken source (created + 1) position ↔
      store.Taken source created (position + 1) := by
  -- the stored seed is the only new entry, and it is the earliest seed of the list
  have contained (id : Uuid) :
      next.contains id = true ↔
        source.newId created = id ∨ store.contains id = true := by
    rw [contains, get?_insert inserted, Source.id_sow, contains]
    by_cases same : id = source.newId created
    · simp [same]
    · simp [same, Ne.symm same]
  have shift (n : Nat) : created + 1 + n = created + (n + 1) := by omega
  simp only [Taken, contained, shift, Nat.exists_lt_succ_left, Nat.add_zero]
  tauto

theorem insert_sow_of_taken (seed : Seed) (taken : store.Taken source created 0) :
    store.insert (source.sow created seed) =
      .error (.duplicateUser (source.newId created)) :=
  insert_eq_error_iff.mpr ⟨taken_zero.mp taken, rfl⟩

theorem insert_sow_of_free (seed : Seed)
    (free : ¬ store.Taken source created 0) :
    ∃ next, store.insert (source.sow created seed) = .ok next ∧
      next.entries =
        store.entries ++ [(source.newId created, source.sow created seed)] := by
  rw [taken_zero, Bool.not_eq_true, contains_eq_false_iff] at free
  exact ⟨_, insert_eq_ok_iff.mpr ⟨free, rfl⟩, rfl⟩

theorem sow_of_free {seeds : List Seed}
    (free : ∀ position < seeds.length, ¬ store.Taken source created position) :
    (store.sow source created seeds).failure = none ∧
      (store.sow source created seeds).store.entries =
        store.entries ++ source.entries created seeds ∧
      (store.sow source created seeds).created = created + seeds.length := by
  induction seeds generalizing store created with
  | nil =>
      refine ⟨rfl, ?_, rfl⟩
      exact (List.append_nil store.entries).symm
  | cons seed seeds induction =>
      obtain ⟨next, inserted, entries⟩ :=
        insert_sow_of_free seed (free 0 (Nat.zero_lt_succ _))
      have restFree : ∀ position < seeds.length,
          ¬ next.Taken source (created + 1) position := by
        intro position inside
        rw [taken_succ inserted]
        exact free (position + 1) (Nat.succ_lt_succ inside)
      obtain ⟨failure, stored, count⟩ := induction restFree
      rw [sow_cons_of_inserted seeds inserted]
      refine ⟨failure, ?_, ?_⟩
      · rw [stored, entries, Source.entries_cons, List.append_assoc]
        rfl
      · rw [count, List.length_cons]
        omega

/-- At the first taken identifier seeding stops, with the seeds before it stored. -/
theorem sow_of_taken {seeds : List Seed} {k : Nat} (inside : k < seeds.length)
    (taken : store.Taken source created k)
    (first : ∀ position < k, ¬ store.Taken source created position) :
    (store.sow source created seeds).failure =
        some ⟨seeds[k], .duplicateUser (source.newId (created + k))⟩ ∧
      (store.sow source created seeds).store.entries =
        store.entries ++ source.entries created (seeds.take k) ∧
      (store.sow source created seeds).created = created + k + 1 := by
  induction seeds generalizing store created k with
  | nil => exact absurd inside (Nat.not_lt_zero k)
  | cons seed seeds induction =>
      cases k with
      | zero =>
          rw [sow_cons_of_refused seeds (insert_sow_of_taken seed taken)]
          refine ⟨rfl, ?_, rfl⟩
          exact (List.append_nil store.entries).symm
      | succ k =>
          obtain ⟨next, inserted, entries⟩ :=
            insert_sow_of_free seed (first 0 (Nat.zero_lt_succ k))
          have restFirst : ∀ position < k,
              ¬ next.Taken source (created + 1) position := by
            intro position before
            rw [taken_succ inserted]
            exact first (position + 1) (Nat.succ_lt_succ before)
          obtain ⟨failure, stored, count⟩ :=
            induction (Nat.lt_of_succ_lt_succ inside)
              ((taken_succ inserted k).mpr taken) restFirst
          rw [sow_cons_of_inserted seeds inserted]
          refine ⟨?_, ?_, ?_⟩
          · -- the number of the failing user, counted from the second seed
            have number : created + 1 + k = created + (k + 1) := by omega
            rw [failure, List.getElem_cons_succ, number]
          · rw [stored, entries, List.take_succ_cons, Source.entries_cons,
              List.append_assoc]
            rfl
          · rw [count]
            omega

theorem free_or_first_taken (store : Store) (source : Source) (created count : Nat) :
    (∀ position < count, ¬ store.Taken source created position) ∨
      ∃ k < count, store.Taken source created k ∧
        ∀ position < k, ¬ store.Taken source created position := by
  classical
  by_cases free : ∀ position < count, ¬ store.Taken source created position
  · exact .inl free
  · push Not at free
    obtain ⟨inside, taken⟩ := Nat.find_spec free
    refine .inr ⟨Nat.find free, inside, taken, ?_⟩
    intro position before takenBefore
    exact Nat.find_min free before ⟨Nat.lt_trans before inside, takenBefore⟩

/-! ## The outcome -/

/-- Seeding stores every seed or stops at the first taken identifier, and keeps what
was stored before.  The last part says that a user has exactly the metadata of its
seed; that the keys are in order holds of every seed that was read, by
`Seed.ordered_of_read`. -/
theorem sow_outcome (source : Source) (store : Store) (created : Nat)
    (seeds : List Seed) :
    ((∀ position < seeds.length, ¬ store.Taken source created position) →
      (store.sow source created seeds).answer seeds = .ok seeds.length ∧
        (store.sow source created seeds).store.entries =
          store.entries ++ source.entries created seeds ∧
        (store.sow source created seeds).created = created + seeds.length) ∧
      (∀ k, (inside : k < seeds.length) → store.Taken source created k →
        (∀ position < k, ¬ store.Taken source created position) →
        ∃ error,
          (store.sow source created seeds).answer seeds = .error error ∧
            error.message = "Failed to seed user '" ++ seeds[k].username ++ "'" ∧
            error.cause = .duplicateUser (source.newId (created + k)) ∧
            (store.sow source created seeds).store.entries =
              store.entries ++ source.entries created (seeds.take k) ∧
            (store.sow source created seeds).created = created + k + 1) ∧
      (∀ id user, store.get? id = some user →
        (store.sow source created seeds).store.get? id = some user) ∧
      ∀ seed ∈ seeds, seed.metadata.Ordered → ∀ id createdAt,
        (seed.user id createdAt).metadata = seed.metadata := by
  refine ⟨?_, ?_, ?_, ?_⟩
  · intro free
    obtain ⟨failure, stored, count⟩ := sow_of_free free
    refine ⟨?_, stored, count⟩
    rw [Seeding.answer, failure]
  · intro k inside taken first
    obtain ⟨failure, stored, count⟩ := sow_of_taken inside taken first
    refine ⟨⟨seeds[k], .duplicateUser (source.newId (created + k))⟩, ?_, ?_, rfl,
      stored, count⟩
    · rw [Seeding.answer, failure]
    · exact SeedingError.message_eq _
  · intro id user found
    exact get?_sow found seeds
  · intro seed _ ordered id createdAt
    exact Json.Members.ofEntries_of_ordered ordered

/-- The third of three seeds gets the identifier of the first, and is the one at
which seeding stops. -/
theorem sow_outcome_of_repeated_identifier :
    let source : Source := .ofLists [5, 6, 5] []
    let seeds : List Seed :=
      [ ⟨"ann", "ann@example.com", none, []⟩,
        ⟨"bob", "bob@example.com", some ["admin", "admin"], []⟩,
        ⟨"cara", "cara@example.com", none, []⟩ ]
    ∃ error,
      (Store.empty.sow source 0 seeds).answer seeds = .error error ∧
        error.message = "Failed to seed user 'cara'" ∧
        error.cause = .duplicateUser (.random 5) ∧
        (Store.empty.sow source 0 seeds).store.entries =
          source.entries 0 (seeds.take 2) ∧
        (Store.empty.sow source 0 seeds).created = 3 := by
  intro source seeds
  have taken : Store.empty.Taken source 0 2 :=
    .inr ⟨0, by decide, by decide⟩
  have first : ∀ position < 2, ¬ Store.empty.Taken source 0 position := by
    rintro position before (filed | ⟨earlier, sooner, same⟩)
    · contradiction
    · obtain ⟨rfl, rfl⟩ : earlier = 0 ∧ position = 1 := by omega
      exact absurd same (by decide)
  exact (sow_outcome source Store.empty 0 seeds).2.1 2 (by decide) taken first

end Store

end UserRegistry
