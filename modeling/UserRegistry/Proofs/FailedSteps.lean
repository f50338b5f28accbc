import UserRegistry.Proofs.ConfigReading
import UserRegistry.Proofs.SeedingOutcome
import UserRegistry.Proofs.SessionEffect

/-!
# Failed steps

A step that fails leaves the session exactly as it was: its stores, its local users,
its configuration and the count of users made.  The one exception is seeding that a
taken identifier stops.  Hence any of the other failed steps can be deleted from a
session, and the remaining steps answer as before.
-/

namespace UserRegistry

namespace Session

variable {source : Source} {session : Session}

/-- An outcome that has left the session as it was if it is a failure. -/
def Atomic (session : Session) (outcome : Outcome) : Prop :=
  ∀ failure, outcome.2 = .error failure → outcome.1 = session

theorem atomic_fail (failure : Failure) : session.Atomic (session.fail failure) :=
  fun _ _ => rfl

theorem atomic_ok (next : Session) (answer : Answer) :
    session.Atomic (next, .ok answer) := by
  intro failure failed
  contradiction

theorem atomic_answer (answer : Answer) : session.Atomic (session.answer answer) :=
  atomic_ok session answer

theorem atomic_withUser {handle : String} {next : User → Outcome}
    (each : ∀ user, session.Atomic (next user)) :
    session.Atomic (session.withUser handle next) := by
  unfold withUser
  cases session.locals.get? handle with
  | none => exact atomic_fail _
  | some user => exact each user

theorem atomic_withId {id : Reference} {next : Uuid → Outcome}
    (each : ∀ id, session.Atomic (next id)) :
    session.Atomic (session.withId id next) := by
  cases id with
  | id id => exact each id
  | handle name => exact atomic_withUser fun user => each user.id

theorem atomic_perform (handle : Option String) (operation : Store.Operation) :
    session.Atomic (session.perform handle operation) := by
  unfold Session.perform
  cases answered : (session.current.perform operation).2 with
  | error cause =>
      dsimp only
      simp only [answered]
      exact atomic_fail _
  | ok answer =>
      dsimp only
      simp only [answered]
      cases answer with
      | user found =>
          cases found with
          | none => exact atomic_ok _ _
          | some user => exact atomic_ok _ _
      | done => exact atomic_ok _ _
      | id => exact atomic_ok _ _
      | users => exact atomic_ok _ _
      | flag => exact atomic_ok _ _
      | count => exact atomic_ok _ _

theorem atomic_stepUser (source : Source) (session : Session) (step : LocalStep) :
    session.Atomic (session.stepUser source step) := by
  cases step with
  | create handle username email roles => exact atomic_ok _ _
  | fromSeed handle seed =>
      rw [stepUser]
      cases Seed.ofJson seed with
      | error cause => exact atomic_fail _
      | ok seed => exact atomic_ok _ _
  | equal user other =>
      exact atomic_withUser fun _ => atomic_withUser fun _ => atomic_answer _
  | clone user handle => exact atomic_withUser fun _ => atomic_ok _ _
  | addRole user role => exact atomic_withUser fun _ => atomic_ok _ _
  | setMetadata user key value => exact atomic_withUser fun _ => atomic_ok _ _
  | removeMetadata user key => exact atomic_withUser fun _ => atomic_ok _ _
  | clearMetadata user => exact atomic_withUser fun _ => atomic_ok _ _
  | user user => exact atomic_withUser fun _ => atomic_answer _
  | fields user => exact atomic_withUser fun _ => atomic_answer _
  | json user => exact atomic_withUser fun _ => atomic_answer _
  | hasRole user role => exact atomic_withUser fun _ => atomic_answer _
  | isAdmin user => exact atomic_withUser fun _ => atomic_answer _
  | getMetadata user key => exact atomic_withUser fun _ => atomic_answer _
  | metadata user => exact atomic_withUser fun _ => atomic_answer _

theorem atomic_stepStore (session : Session) (step : StoreStep) :
    session.Atomic (session.stepStore step) := by
  cases step with
  | insert handle => exact atomic_withUser fun _ => atomic_perform _ _
  | get id handle => exact atomic_withId fun _ => atomic_perform _ _
  | remove id handle => exact atomic_withId fun _ => atomic_perform _ _
  | contains id => exact atomic_withId fun _ => atomic_perform _ _
  | addRole id role => exact atomic_withId fun _ => atomic_perform _ _
  | isAdmin id => exact atomic_withId fun _ => atomic_perform _ _
  | find username => exact atomic_perform _ _
  | admins => exact atomic_perform _ _
  | all => exact atomic_perform _ _
  | clear => exact atomic_perform _ _
  | pretty => exact atomic_answer _
  | size => exact atomic_answer _

/-- The failure of a seeding step that a taken identifier stopped. -/
def StoppedSeeding (step : Step) (failure : Failure) : Prop :=
  ∃ seeds error id,
    step = .onState (.seed seeds) ∧ failure = .stopped error ∧
      error.cause = .duplicateUser id

theorem stopped_of_seedLoaded {store : Store} {seeds : List Seed} {failure : Failure}
    (failed : (session.seedLoaded source store seeds).2 = .error failure) :
    ∃ error id, failure = .stopped error ∧ error.cause = .duplicateUser id := by
  rw [seedLoaded, Seeding.answer] at failed
  cases outcome : (store.sow source session.created seeds).failure with
  | none => simp [outcome] at failed
  | some error =>
      simp only [outcome, Except.error.injEq] at failed
      obtain ⟨n, cause⟩ := Store.cause_of_failure outcome
      exact ⟨error, source.newId n, failed.symm, cause⟩

/-- A failed step leaves the session as it was or is seeding that was stopped. -/
theorem unchanged_or_stopped {step : Step} {failure : Failure}
    (failed : (session.step source step).2 = .error failure) :
    (session.step source step).1 = session ∨ StoppedSeeding step failure := by
  cases step with
  | onUser step => exact .inl (atomic_stepUser source session step failure failed)
  | onStore step => exact .inl (atomic_stepStore session step failure failed)
  | onState step =>
      cases step with
      | renew => contradiction
      | load text =>
          rw [step, stepState] at failed ⊢
          cases parsed : Config.parse text with
          | error cause => exact .inl rfl
          | ok config => simp [parsed] at failed
      | seed seeds =>
          rw [step] at failed ⊢
          cases loaded : session.stores.loaded? with
          | none =>
              rw [stepState_seed_of_unloaded loaded]
              exact .inl rfl
          | some pair =>
              obtain ⟨config, store⟩ := pair
              rw [stepState_seed_of_loaded loaded] at failed ⊢
              cases chosen : config.chosenSeeds seeds with
              | error cause => exact .inl rfl
              | ok read =>
                  rw [chosen] at failed
                  obtain ⟨error, id, stopped, cause⟩ := stopped_of_seedLoaded failed
                  exact .inr ⟨seeds, error, id, rfl, stopped, cause⟩

/-- One seed that cannot be read, wherever it is in the list, fails the whole step. -/
theorem step_seed_of_unreadable {values : List Json} {value : Json} (listed : value ∈ values)
    {cause : ReadError} (unreadable : Seed.ofJson value = .error cause) :
    ∃ failure,
      session.step source (.onState (.seed (some values))) = (session, .error failure) := by
  rw [step]
  cases loaded : session.stores.loaded? with
  | none => exact ⟨.nothingLoaded, stepState_seed_of_unloaded loaded _⟩
  | some pair =>
      obtain ⟨config, store⟩ := pair
      rw [stepState_seed_of_loaded loaded, Config.chosenSeeds]
      cases read : values.mapM Seed.ofJson with
      | error cause => exact ⟨.badSeed cause, rfl⟩
      | ok seeds =>
          have each := List.forall₂_iff_get.mp (mapM_eq_ok_iff.mp read)
          obtain ⟨position, inside, found⟩ := List.getElem_of_mem listed
          have readable := each.2 position inside (each.1 ▸ inside)
          simp only [List.get_eq_getElem, found, unreadable] at readable
          contradiction

/-! ## Deleting steps -/

/-- The items of a list whose positions are not deleted. -/
def undeleted {Item : Type} (deleted : Nat → Bool) : List Item → List Item
  | [] => []
  | item :: items =>
    let rest := undeleted (fun position => deleted (position + 1)) items
    if deleted 0 then rest else item :: rest

/-- Whether the step at a position fails without having seeded anything. -/
def FailsAt (source : Source) (session : Session) (steps : List Step) (position : Nat) :
    Prop :=
  ∃ step failure size,
    steps[position]? = some step ∧
      (session.run source steps).2[position]? = some (.error failure, size) ∧
      ¬ StoppedSeeding step failure

/-- Without the deleted steps a session ends the same, and the others answer the same. -/
theorem run_undeleted {steps : List Step} {deleted : Nat → Bool}
    (failing : ∀ position < steps.length,
      deleted position = true → session.FailsAt source steps position) :
    session.run source (undeleted deleted steps) =
      ((session.run source steps).1, undeleted deleted (session.run source steps).2) := by
  induction steps generalizing session deleted with
  | nil => rfl
  | cons step steps induction =>
      have restFailing : ∀ position < steps.length, deleted (position + 1) = true →
          (session.step source step).1.FailsAt source steps position :=
        fun position inside gone => failing (position + 1) (Nat.succ_lt_succ inside) gone
      have rest := induction restFailing
      cases gone : deleted 0 with
      | true =>
          -- the deleted step has left the session as it was, so the rest starts from there
          obtain ⟨first, failure, size, here, answered, harmless⟩ :=
            failing 0 (Nat.zero_lt_succ _) gone
          cases here
          have failed : (session.step source step).2 = .error failure :=
            congrArg Prod.fst (Option.some.inj answered)
          have unchanged : (session.step source step).1 = session :=
            (unchanged_or_stopped failed).resolve_right harmless
          rw [run_cons]
          simp only [undeleted, gone, unchanged] at rest ⊢
          exact rest
      | false =>
          simp only [undeleted, gone, Bool.false_eq_true, if_false, run_cons, rest]

/-- Whatever fails, other than seeding that a taken identifier stops, leaves the whole
session as it was: both stores, the local users, the configuration and the count of users
made.  This includes a list of seeds of which any one cannot be read.  Hence all such
steps can be deleted from a session without a change in the other answers. -/
theorem failed_steps_change_nothing (source : Source) (session : Session) :
    (∀ step failure, (session.step source step).2 = .error failure →
      ¬ StoppedSeeding step failure → (session.step source step).1 = session) ∧
      (∀ values : List Json, (∃ value ∈ values, ∃ cause, Seed.ofJson value = .error cause) →
        ∃ failure, session.step source (.onState (.seed (some values))) =
          (session, .error failure)) ∧
      ∀ (steps : List Step) (deleted : Nat → Bool),
        (∀ position < steps.length,
          deleted position = true → session.FailsAt source steps position) →
        session.run source (undeleted deleted steps) =
          ((session.run source steps).1, undeleted deleted (session.run source steps).2) := by
  refine ⟨?_, ?_, ?_⟩
  · intro step failure failed harmless
    exact (unchanged_or_stopped failed).resolve_right harmless
  · rintro values ⟨value, listed, cause, unreadable⟩
    exact step_seed_of_unreadable listed unreadable
  · intro steps deleted failing
    exact run_undeleted failing

/-- A duplicate, a role for nobody, a seed that is no table, and seeding without a
configuration. -/
def refusals : List Step :=
  [ .onUser (.create "a" "ann" "a@x" none), .onStore (.insert "a"), .onStore (.insert "a"),
    .onStore (.addRole (.id (.random 9)) "admin"), .onUser (.fromSeed "b" .null),
    .onState (.seed none), .onStore .size ]

/-- The four refused steps can be deleted. -/
theorem failed_steps_of_refusals :
    let deleted : Nat → Bool := fun position => 2 ≤ position && position ≤ 5
    start.run (.ofLists [] [])
        [.onUser (.create "a" "ann" "a@x" none), .onStore (.insert "a"), .onStore .size] =
      ((start.run (.ofLists [] []) refusals).1,
        undeleted deleted (start.run (.ofLists [] []) refusals).2) := by
  intro deleted
  have failing : ∀ position < refusals.length,
      deleted position = true → start.FailsAt (.ofLists [] []) refusals position := by
    intro position inside gone
    have range : 2 ≤ position ∧ position ≤ 5 := by simpa [deleted] using gone
    obtain rfl | rfl | rfl | rfl :
        position = 2 ∨ position = 3 ∨ position = 4 ∨ position = 5 := by omega
    · exact ⟨_, .refused (.duplicateUser (.random 1)), 1, rfl, rfl,
        fun ⟨_, _, _, _, stopped, _⟩ => nomatch stopped⟩
    · exact ⟨_, .refused (.userNotFound (.random 9)), 1, rfl, rfl,
        fun ⟨_, _, _, _, stopped, _⟩ => nomatch stopped⟩
    · exact ⟨_, .badSeed (.wrongType .null (.record "UserSeed")), 1, rfl, rfl,
        fun ⟨_, _, _, _, stopped, _⟩ => nomatch stopped⟩
    · exact ⟨_, .nothingLoaded, 1, rfl, rfl,
        fun ⟨_, _, _, _, stopped, _⟩ => nomatch stopped⟩
  exact (failed_steps_change_nothing (.ofLists [] []) start).2.2 refusals deleted failing

end Session

end UserRegistry
