import UserRegistry.Store

/-!
# Seeding

Storing a user for each seed in turn, up to the first whose identifier is taken.
-/

namespace UserRegistry

/-- The seed at which seeding stopped, and why its user was not stored. -/
structure SeedingError where
  seed : Seed
  cause : StoreError

/-- The message of a seeding error, without its cause. -/
def SeedingError.message (error : SeedingError) : String :=
  String.join ["Failed to seed user '", error.seed.username, "'"]

/-- The outcome of seeding: the store, how many users have been created in all,
the users stored by it, and the error that stopped it. -/
structure Seeding where
  store : Store
  created : Nat
  stored : List User
  failure : Option SeedingError

/-- What seeding with `seeds` answers: the number of seeds, or the error that
stopped it. -/
def Seeding.answer (seeding : Seeding) (seeds : List Seed) : Except SeedingError Nat :=
  match seeding.failure with
  | some error => .error error
  | none => .ok seeds.length

/-- Stores a user for each seed.  The first is the source's user number
`created`. -/
def Store.sow (source : Source) (store : Store) (created : Nat) : List Seed → Seeding
  | [] => ⟨store, created, [], none⟩
  | seed :: seeds =>
    let user := source.sow created seed
    match store.insert user with
    | .error cause => ⟨store, created + 1, [], some ⟨seed, cause⟩⟩
    | .ok store =>
      let rest := Store.sow source store (created + 1) seeds
      { rest with stored := user :: rest.stored }

end UserRegistry
