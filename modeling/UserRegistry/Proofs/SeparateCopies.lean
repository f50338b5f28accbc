import UserRegistry.Proofs.SessionEffect
import UserRegistry.Proofs.StoredUsers

/-!
# Separate copies

A session holds a user at a place: under a handle, or filed in one of its stores.  Only a
step that operates on the user at a place changes it, and a copy is a user at a place of
its own.  So whichever of two users is operated on, for however long, the other stays as
it was, even if one was made from the other.
-/

namespace UserRegistry

/-- Whether an operation can change or remove the user filed under an identifier. -/
def Store.Operation.Alters (id : Uuid) : Store.Operation → Prop
  | .addRole changed _ => changed = id
  | .remove removed => removed = id
  | .clear => True
  | _ => False

theorem Store.get?_perform_of_not_alters {store : Store} {id : Uuid} {user : User}
    (stored : store.get? id = some user) {operation : Operation}
    (unaltered : ¬ operation.Alters id) :
    (store.perform operation).1.get? id = some user := by
  have unremoved : operation ≠ .remove id := by
    rintro rfl
    exact unaltered rfl
  have uncleared : operation ≠ .clear := by
    rintro rfl
    exact unaltered trivial
  have noRole : operation.roleFor? id = none := by
    cases operation with
    | addRole changed role => exact if_neg unaltered
    | _ => rfl
  have found := get?_perform stored unremoved uncleared
  rwa [noRole] at found

theorem Store.get?_perform_insert_of_free {store : Store} {user : User}
    (free : store.get? user.id = none) :
    (store.perform (.insert user)).1.get? user.id = some user := by
  have inserted := insert_eq_ok_iff.mpr ⟨free, rfl⟩
  simp only [perform, inserted, get?_insert inserted, if_true]

/-- Where a session holds a user: under a handle, or filed under an identifier in the
current store or in that of the loaded configuration. -/
inductive Place where
  | known (handle : String)
  | filed (id : Uuid)
  | loaded (id : Uuid)

namespace Session

variable {source : Source} {session : Session} {place : Place} {user : User}

def userAt (session : Session) : Place → Option User
  | .known handle => session.locals.get? handle
  | .filed id => session.current.get? id
  | .loaded id => session.stores.loaded?.bind fun loaded => loaded.2.get? id

/-- Whether a step on the store can change or remove the user filed under an
identifier. -/
def Alters (session : Session) (step : StoreStep) (id : Uuid) : Prop :=
  ∃ operation, step.operation? session.locals = some operation ∧ operation.Alters id

/-- Whether a step operates on the user at a place.  To replace a store is to operate on
every user in it, and to operate on a user in a store that two places share is to operate
on both. -/
def OperatesOn (session : Session) : Step → Place → Prop
  | .onUser step, .known handle => step.target? = some handle
  | .onStore step, .known handle => step.target? = some handle
  | .onStore step, .filed id => session.Alters step id
  | .onStore step, .loaded id => session.stores.Joined ∧ session.Alters step id
  | .onState .renew, .filed _ => True
  | .onState (.load text), .filed _ => (Config.parse text).isOk = true
  | .onState (.load text), .loaded _ => (Config.parse text).isOk = true
  | _, _ => False

/-- No step of a run operates on the user at a place. -/
def Spares (source : Source) (place : Place) : Session → List Step → Prop
  | _, [] => True
  | session, step :: steps =>
    ¬ session.OperatesOn step place ∧ Spares source place (session.step source step).1 steps

/-! ## One step -/

theorem userAt_stepUser (held : session.userAt place = some user) {step : LocalStep}
    (spared : ¬ session.OperatesOn (.onUser step) place) :
    (session.step source (.onUser step)).1.userAt place = some user := by
  cases place with
  | known handle => exact (get?_stepUser_of_ne source session step spared).trans held
  | filed id =>
      rw [Session.step, userAt, current, stores_stepUser]
      exact held
  | loaded id =>
      rw [Session.step, userAt, stores_stepUser]
      exact held

theorem get?_current_stepStore {id : Uuid} {step : StoreStep}
    (stored : session.current.get? id = some user) (spared : ¬ session.Alters step id) :
    (session.stepStore step).1.current.get? id = some user := by
  rw [current_stepStore, StoreStep.applied]
  cases performed : step.operation? session.locals with
  | none => exact stored
  | some operation =>
      exact Store.get?_perform_of_not_alters stored fun alters =>
        spared ⟨operation, performed, alters⟩

theorem userAt_stepStore (held : session.userAt place = some user) {step : StoreStep}
    (spared : ¬ session.OperatesOn (.onStore step) place) :
    (session.step source (.onStore step)).1.userAt place = some user := by
  cases place with
  | known handle =>
      rw [Session.step, userAt, get?_stepStore]
      exact (if_neg spared).trans held
  | filed id => exact get?_current_stepStore held spared
  | loaded id =>
      rw [userAt, Session.step, stores_stepStore, ← current_stepStore]
      cases stores : session.stores with
      | unloaded store => simp [userAt, stores, Stores.loaded?] at held
      | joined config store =>
          -- the loaded store is the current one
          have stored : session.current.get? id = some user := by
            simpa [userAt, current, stores, Stores.loaded?, Stores.current] using held
          refine get?_current_stepStore stored fun altered => spared ⟨?_, altered⟩
          rw [stores]
          trivial
      | apart config loaded store =>
          rw [userAt, stores] at held
          exact held

/-- New seeds are filed beside the users that are there. -/
theorem userAt_seedLoaded {config : Config} {store : Store}
    (loaded : session.stores.loaded? = some (config, store))
    (held : session.userAt place = some user) (seeds : List Seed) :
    (session.seedLoaded source store seeds).1.userAt place = some user := by
  cases place with
  | known handle => exact held
  | filed id =>
      rw [userAt, seedLoaded, current]
      rw [userAt, current] at held
      cases stores : session.stores with
      | unloaded current =>
          rw [stores] at loaded
          contradiction
      | joined config joint =>
          rw [stores] at loaded held
          cases loaded
          exact Store.get?_sow held seeds
      | apart config other current =>
          rw [stores] at held
          exact held
  | loaded id =>
      rw [userAt, loaded] at held
      rw [userAt, seedLoaded]
      simp only [Stores.loaded?_setLoaded loaded]
      exact Store.get?_sow held seeds

theorem userAt_stepState (held : session.userAt place = some user) {step : StateStep}
    (spared : ¬ session.OperatesOn (.onState step) place) :
    (session.step source (.onState step)).1.userAt place = some user := by
  cases step with
  | renew =>
      cases place with
      | known handle => exact held
      | filed id => exact absurd trivial spared
      | loaded id =>
          rw [Session.step, stepState, userAt, Stores.loaded?_renew]
          exact held
  | load text =>
      rw [Session.step, stepState]
      cases parsed : Config.parse text with
      | error cause => exact held
      | ok config =>
          have accepted : (Config.parse text).isOk = true := by
            rw [parsed]
            rfl
          cases place with
          | known handle => exact held
          | filed id => exact absurd accepted spared
          | loaded id => exact absurd accepted spared
  | seed seeds =>
      rw [Session.step]
      cases loaded : session.stores.loaded? with
      | none =>
          rw [stepState_seed_of_unloaded loaded]
          exact held
      | some pair =>
          obtain ⟨config, store⟩ := pair
          rw [stepState_seed_of_loaded loaded]
          cases config.chosenSeeds seeds with
          | error cause => exact held
          | ok chosen => exact userAt_seedLoaded loaded held chosen

/-- A step leaves the user at a place alone unless it operates on it. -/
theorem userAt_step (held : session.userAt place = some user) {step : Step}
    (spared : ¬ session.OperatesOn step place) :
    (session.step source step).1.userAt place = some user := by
  cases step with
  | onUser step => exact userAt_stepUser held spared
  | onStore step => exact userAt_stepStore held spared
  | onState step => exact userAt_stepState held spared

/-! ## Runs -/

theorem userAt_run {steps : List Step} (held : session.userAt place = some user)
    (spared : session.Spares source place steps) :
    (session.run source steps).1.userAt place = some user := by
  induction steps generalizing session with
  | nil => exact held
  | cons step steps induction => exact induction (userAt_step held spared.1) spared.2

/-! ## Copies -/

/-- The steps that make a user at the second place a copy of the one at the first. -/
inductive Copies (session : Session) : Step → Place → Place → Prop where
  | clone (user handle : String) :
      Copies session (.onUser (.clone user handle)) (.known user) (.known handle)
  | insert {handle : String} {user : User} :
      session.locals.get? handle = some user → session.current.get? user.id = none →
      Copies session (.onStore (.insert handle)) (.known handle) (.filed user.id)
  | get {reference : Reference} {id : Uuid} (handle : String) :
      reference.resolve? session.locals = some id →
      Copies session (.onStore (.get reference (some handle))) (.filed id) (.known handle)

theorem userAt_of_copies {step : Step} {origin copy : Place}
    (copies : session.Copies step origin copy) (held : session.userAt origin = some user) :
    (session.step source step).1.userAt origin = some user ∧
      (session.step source step).1.userAt copy = some user := by
  cases copies with
  | clone original handle =>
      have step : (session.step source (.onUser (.clone original handle))).1 =
          session.keep handle user := by
        have known : session.locals.get? original = some user := held
        rw [Session.step, stepUser, withUser, known]
      rw [step]
      constructor
      · rw [userAt, keep, Locals.get?_keep]
        split
        · rfl
        · exact held
      · rw [userAt, keep, Locals.get?_keep, if_pos rfl]
  | @insert handle found known free =>
      cases known.symm.trans held
      have performed : StoreStep.operation? session.locals (.insert handle) =
          some (.insert user) := by
        rw [StoreStep.operation?, known]
        rfl
      constructor
      · exact (get?_stepStore session (.insert handle) handle).trans held
      · rw [Session.step, userAt, current_stepStore, StoreStep.applied, performed]
        exact Store.get?_perform_insert_of_free free
  | @get reference id handle resolved =>
      have performed : StoreStep.operation? session.locals (.get reference (some handle)) =
          some (.get id) := by
        rw [StoreStep.operation?, resolved]
        rfl
      constructor
      · refine get?_current_stepStore held ?_
        rintro ⟨operation, same, alters⟩
        cases performed.symm.trans same
        exact alters
      · have stored : session.current.get? id = some user := held
        have found : session.found? (.get reference (some handle)) = some user := by
          rw [found?, performed]
          exact stored
        rw [Session.step, userAt, get?_stepStore, found]
        exact if_pos rfl

/-- A step on a local user changes no store and of the local users at most its target.  A
step on the store changes no local user, except that the one that it names for the user
it finds becomes a copy of that user.  Copies are made by cloning, filing and looking up;
from then on, through any steps, each of two users stays as it is while no step operates
on it, whatever happens to the other. -/
theorem only_the_user_operated_on_changes (source : Source) (session : Session) :
    (∀ step : LocalStep,
      let next := (session.step source (.onUser step)).1
      next.stores = session.stores ∧
        ∀ handle, step.target? ≠ some handle →
          next.locals.get? handle = session.locals.get? handle) ∧
      (∀ (step : StoreStep) (handle : String),
        (session.step source (.onStore step)).1.locals.get? handle =
          if step.target? = some handle then
            (session.found? step).or (session.locals.get? handle)
          else session.locals.get? handle) ∧
      (∀ step origin copy user, session.Copies step origin copy →
        session.userAt origin = some user →
          let next := (session.step source step).1
          next.userAt origin = some user ∧ next.userAt copy = some user) ∧
      ∀ steps place user, session.userAt place = some user →
        session.Spares source place steps →
          (session.run source steps).1.userAt place = some user := by
  refine ⟨?_, get?_stepStore session, ?_, ?_⟩
  · intro step
    exact ⟨stores_stepUser source session step,
      fun _ other => get?_stepUser_of_ne source session step other⟩
  · intro step origin copy user copies held
    exact userAt_of_copies copies held
  · intro steps place user held spared
    exact userAt_run held spared

/-- A clone becomes an administrator, is filed, filed copies of it get a role and are
cleared away. -/
def changingClone : List Step :=
  [ .onUser (.addRole "b" "admin"), .onStore (.insert "b"),
    .onStore (.addRole (.handle "a") "owner"), .onStore (.get (.handle "a") (some "c")),
    .onUser (.setMetadata "c" "k" .null), .onStore .clear ]

/-- The user that was cloned has seen nothing of it, nor did the clone's first step reach
a third user. -/
theorem only_the_clone_changed :
    let source : Source := .ofLists [] []
    let session := (start.run source [.onUser (.create "a" "ann" "" none)]).1
    let cloned := (session.step source (.onUser (.clone "a" "b"))).1
    let ann := source.create 0 "ann" "" none
    (cloned.run source changingClone).1.userAt (.known "a") = some ann ∧
      (cloned.step source (.onUser (.addRole "b" "admin"))).1.locals.get? "c" = none := by
  intro source session cloned ann
  obtain ⟨_, _, copying, _⟩ := only_the_user_operated_on_changes source session
  obtain ⟨frame, _, _, running⟩ := only_the_user_operated_on_changes source cloned
  obtain ⟨held, _⟩ := copying _ _ _ ann (.clone "a" "b") rfl
  have spared : cloned.Spares source (.known "a") changingClone := by
    simp [changingClone, Spares, OperatesOn, LocalStep.target?, StoreStep.target?]
  exact ⟨running changingClone (.known "a") ann held spared,
    (frame (.addRole "b" "admin")).2 "c" (by decide)⟩

end Session

end UserRegistry
