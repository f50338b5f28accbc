import UserRegistry.Proofs.SessionParts
import UserRegistry.Proofs.StoreHistory

/-!
# Effects of session steps

`Session.Effect` says what a single step can do to a session, whichever of the
thirty steps it is: leave it alone, make a user, put an edited copy of a local user
under a handle, perform an operation on the current store, hand out a stored user,
or replace or seed a store.  Every invariant of sessions goes through it.  Only the
users that enter are tracked closely: a user that reaches a store is a local one,
and a local one is made by the source, an edit of a local one, or stored.
-/

namespace UserRegistry

/-- What a step can make of a local user. -/
inductive User.Edit (user : User) : User → Prop where
  | copy : Edit user user
  | addRole (role : String) : Edit user (user.addRole role)
  | setMetadata (key : String) (value : Json) :
      Edit user (user.setMetadata key value)
  | eraseMetadata (key : String) : Edit user (user.eraseMetadata key)
  | clearMetadata : Edit user user.clearMetadata

/-- The users that a source can make as its user number `n`. -/
inductive Source.Makes (source : Source) (n : Nat) : User → Prop where
  | create (username email : String) (roles : Option (List String)) :
      Makes source n (source.create n username email roles)
  | sow (seed : Seed) : Makes source n (source.sow n seed)

namespace Store

/-- The only user that an operation files. -/
def Operation.inserted? : Operation → Option User
  | .insert user => some user
  | _ => none

/-- Only operations that file nobody answer with a user, and that user is stored. -/
theorem mem_users_of_answer {store : Store} {operation : Operation} {user : User}
    (answered : (store.perform operation).2 = .ok (.user (some user))) :
    operation.inserted? = none ∧ user ∈ store.users := by
  have stored {id : Uuid} (found : store.get? id = some user) :
      user ∈ store.users :=
    List.mem_map.mpr ⟨(id, user), mem_entries_of_get? found, rfl⟩
  cases operation with
  | get id =>
      simp only [perform, Except.ok.injEq, Answer.user.injEq] at answered
      exact ⟨rfl, stored answered⟩
  | remove id =>
      simp only [perform, Except.ok.injEq, Answer.user.injEq] at answered
      exact ⟨rfl, stored answered⟩
  | insert inserted =>
      rw [perform] at answered
      cases outcome : store.insert inserted with
      | ok next => simp [outcome] at answered
      | error cause => simp [outcome] at answered
  | addRole id role =>
      rw [perform] at answered
      cases outcome : store.addRole id role with
      | ok next => simp [outcome] at answered
      | error cause => simp [outcome] at answered
  | isAdmin id =>
      rw [perform] at answered
      cases outcome : store.isAdmin id with
      | ok flag => simp [outcome, Except.map] at answered
      | error cause => simp [outcome, Except.map] at answered
  | contains => simp [perform] at answered
  | findByUsername => simp [perform] at answered
  | admins => simp [perform] at answered
  | all => simp [perform] at answered
  | clear => simp [perform] at answered
  | size => simp [perform] at answered
  | isEmpty => simp [perform] at answered

end Store

/-- The seeds of a seeding step: those of the configuration, unless others are given. -/
def Config.chosenSeeds (config : Config) :
    Option (List Json) → Except ReadError (List Seed)
  | none => .ok config.users
  | some values => values.mapM Seed.ofJson

namespace Session

/-- What a step can do to a session. -/
inductive Effect (source : Source) (session : Session) : Session → Prop where
  | nothing : Effect source session session
  | make (handle : String) {user : User} :
      source.Makes session.created user →
      Effect source session
        { session.keep handle user with created := session.created + 1 }
  | edit (handle : String) {origin : String} {found user : User} :
      session.locals.get? origin = some found → found.Edit user →
      Effect source session (session.keep handle user)
  | perform (operation : Store.Operation) :
      (∀ user, operation.inserted? = some user →
        ∃ origin, session.locals.get? origin = some user) →
      Effect source session
        (session.setCurrent (session.current.perform operation).1)
  | find (operation : Store.Operation) (handle : String) {user : User} :
      operation.inserted? = none → user ∈ session.current.users →
      Effect source session
        ((session.setCurrent (session.current.perform operation).1).keep handle user)
  | renew : Effect source session { session with stores := session.stores.renew }
  | load (config : Config) :
      Effect source session
        { session with stores := .joined config (Registry.ofConfig config).users }
  | seed {config : Config} {store : Store} (seeds : List Seed) :
      session.stores.loaded? = some (config, store) →
      Effect source session
        { session with
          stores := session.stores.setLoaded
            (store.sow source session.created seeds).store
          created := (store.sow source session.created seeds).created }

variable {source : Source} {session : Session}

theorem effect_withUser {handle : String} {next : User → Outcome}
    (each : ∀ user, session.locals.get? handle = some user →
      Effect source session (next user).1) :
    Effect source session (session.withUser handle next).1 := by
  unfold withUser
  cases known : session.locals.get? handle with
  | none => exact .nothing
  | some user => exact each user known

theorem effect_withId {id : Reference} {next : Uuid → Outcome}
    (each : ∀ id, Effect source session (next id).1) :
    Effect source session (session.withId id next).1 := by
  cases id with
  | id id => exact each id
  | handle name => exact effect_withUser fun user _ => each user.id

theorem stepState_seed_of_unloaded (unloaded : session.stores.loaded? = none)
    (seeds : Option (List Json)) :
    session.stepState source (.seed seeds) = session.fail .nothingLoaded := by
  rw [stepState, unloaded]

/-- All seeds are read before the first of them is stored. -/
theorem stepState_seed_of_loaded {config : Config} {store : Store}
    (loaded : session.stores.loaded? = some (config, store))
    (seeds : Option (List Json)) :
    session.stepState source (.seed seeds) =
      match config.chosenSeeds seeds with
      | .error cause => session.fail (.badSeed cause)
      | .ok chosen => session.seedLoaded source store chosen := by
  rw [stepState, loaded]
  cases seeds with
  | none => rfl
  | some values => rfl

theorem effect_stepUser (source : Source) (session : Session) (step : LocalStep) :
    Effect source session (session.stepUser source step).1 := by
  cases step with
  | create handle username email roles =>
      exact .make handle (.create username email roles)
  | fromSeed handle seed =>
      rw [stepUser]
      cases Seed.ofJson seed with
      | error cause => exact .nothing
      | ok seed => exact .make handle (.sow seed)
  | clone user handle =>
      exact effect_withUser fun _ known => .edit handle known .copy
  | addRole user role =>
      exact effect_withUser fun _ known => .edit user known (.addRole role)
  | setMetadata user key value =>
      exact effect_withUser fun _ known => .edit user known (.setMetadata key _)
  | removeMetadata user key =>
      exact effect_withUser fun _ known => .edit user known (.eraseMetadata key)
  | clearMetadata user =>
      exact effect_withUser fun _ known => .edit user known .clearMetadata
  | equal user other =>
      exact effect_withUser fun _ _ => effect_withUser fun _ _ => .nothing
  | user user => exact effect_withUser fun _ _ => .nothing
  | fields user => exact effect_withUser fun _ _ => .nothing
  | json user => exact effect_withUser fun _ _ => .nothing
  | hasRole user role => exact effect_withUser fun _ _ => .nothing
  | isAdmin user => exact effect_withUser fun _ _ => .nothing
  | getMetadata user key => exact effect_withUser fun _ _ => .nothing
  | metadata user => exact effect_withUser fun _ _ => .nothing

/-- An operation that fails leaves the session alone; a user that it finds may be
kept under a handle as well. -/
theorem effect_perform (handle : Option String) (operation : Store.Operation)
    (inserted : ∀ user, operation.inserted? = some user →
      ∃ origin, session.locals.get? origin = some user) :
    Effect source session (session.perform handle operation).1 := by
  have performed : Effect source session
      (session.setCurrent (session.current.perform operation).1) :=
    .perform operation inserted
  unfold Session.perform
  cases answered : (session.current.perform operation).2 with
  | error cause =>
      dsimp only
      simp only [answered]
      exact .nothing
  | ok answer =>
      dsimp only
      simp only [answered]
      cases answer with
      | user found =>
          cases found with
          | none => exact performed
          | some user =>
              cases handle with
              | none => exact performed
              | some handle =>
                  obtain ⟨filesNobody, stored⟩ :=
                    Store.mem_users_of_answer answered
                  exact .find operation handle filesNobody stored
      | done => exact performed
      | id => exact performed
      | users => exact performed
      | flag => exact performed
      | count => exact performed

theorem effect_stepStore (source : Source) (session : Session) (step : StoreStep) :
    Effect source session (session.stepStore step).1 := by
  have without {handle : Option String} {operation : Store.Operation}
      (filesNobody : operation.inserted? = none) :
      Effect source session (session.perform handle operation).1 := by
    refine effect_perform handle operation ?_
    intro user inserted
    rw [filesNobody] at inserted
    contradiction
  cases step with
  | insert handle =>
      refine effect_withUser fun found known => ?_
      refine effect_perform none (.insert found) ?_
      intro user inserted
      cases inserted
      exact ⟨handle, known⟩
  | get id handle => exact effect_withId fun id => without rfl
  | remove id handle => exact effect_withId fun id => without rfl
  | contains id => exact effect_withId fun id => without rfl
  | addRole id role => exact effect_withId fun id => without rfl
  | isAdmin id => exact effect_withId fun id => without rfl
  | find username => exact without rfl
  | admins => exact without rfl
  | all => exact without rfl
  | clear => exact without rfl
  | pretty => exact .nothing
  | size => exact .nothing

theorem effect_stepState (source : Source) (session : Session) (step : StateStep) :
    Effect source session (session.stepState source step).1 := by
  cases step with
  | renew => exact .renew
  | load text =>
      rw [stepState]
      cases Config.parse text with
      | error cause => exact .nothing
      | ok config => exact .load config
  | seed seeds =>
      cases loaded : session.stores.loaded? with
      | none =>
          rw [stepState_seed_of_unloaded loaded]
          exact .nothing
      | some pair =>
          obtain ⟨config, store⟩ := pair
          rw [stepState_seed_of_loaded loaded]
          cases config.chosenSeeds seeds with
          | error cause => exact .nothing
          | ok chosen => exact .seed chosen loaded

theorem effect_step (source : Source) (session : Session) (step : Step) :
    Effect source session (session.step source step).1 := by
  cases step with
  | onUser step => exact effect_stepUser source session step
  | onStore step => exact effect_stepStore source session step
  | onState step => exact effect_stepState source session step

end Session

end UserRegistry
