import UserRegistry.Proofs.Associations
import UserRegistry.Session

/-!
# Parts of a session

Which parts of a session a step reads and which it changes.  A step on a local user
does not see the stores, which is stronger than that it leaves them alone: with other
stores it would do the same.  A step on the store is an operation on the current store
and, if it finds a user and is given a handle, keeps a copy of that user.
-/

namespace UserRegistry

/-! ## Parts of the state -/

namespace Stores

/-- Whether the current store is the store of the loaded configuration. -/
def Joined : Stores → Prop
  | .joined _ _ => True
  | _ => False

@[simp] theorem current_setCurrent (stores : Stores) (store : Store) :
    (stores.setCurrent store).current = store := by
  cases stores <;> rfl

@[simp] theorem setCurrent_current (stores : Stores) :
    stores.setCurrent stores.current = stores := by
  cases stores <;> rfl

theorem loaded?_setLoaded {stores : Stores} {config : Config} {store : Store}
    (loaded : stores.loaded? = some (config, store)) (next : Store) :
    (stores.setLoaded next).loaded? = some (config, next) := by
  cases stores with
  | unloaded current => contradiction
  | joined held store =>
      cases loaded
      rfl
  | apart held store current =>
      cases loaded
      rfl

@[simp] theorem loaded?_renew (stores : Stores) : stores.renew.loaded? = stores.loaded? := by
  cases stores <;> rfl

end Stores

theorem Locals.get?_keep (locals : Locals) (handle known : String) (user : User) :
    (locals.keep handle user).get? known =
      if known = handle then some user else locals.get? known := by
  rw [keep, get?, Associations.lookup_cons_eq_ite, Associations.lookup_filter_ne, get?]
  by_cases same : known = handle
  · rw [if_pos same, if_pos same]
  · rw [if_neg same, if_neg same, if_neg same]

/-! ## What a step is about -/

/-- The handle under which a step on local users keeps a user. -/
def LocalStep.target? : LocalStep → Option String
  | .create handle _ _ _ => some handle
  | .fromSeed handle _ => some handle
  | .clone _ handle => some handle
  | .addRole handle _ => some handle
  | .setMetadata handle _ _ => some handle
  | .removeMetadata handle _ => some handle
  | .clearMetadata handle => some handle
  | _ => none

/-- The handle under which a step on the store keeps the user that it finds. -/
def StoreStep.target? : StoreStep → Option String
  | .get _ handle => handle
  | .remove _ handle => handle
  | _ => none

def Reference.resolve? (locals : Locals) : Reference → Option Uuid
  | .id known => some known
  | .handle name => (locals.get? name).map User.id

/-- The operation that a step performs on the current store, unless it names a user
by an unknown handle. -/
def StoreStep.operation? (locals : Locals) : StoreStep → Option Store.Operation
  | .insert handle => (locals.get? handle).map .insert
  | .get id _ => (id.resolve? locals).map .get
  | .remove id _ => (id.resolve? locals).map .remove
  | .contains id => (id.resolve? locals).map .contains
  | .find username => some (.findByUsername username)
  | .admins => some .admins
  | .all => some .all
  | .pretty => some .all
  | .addRole id role => (id.resolve? locals).map fun id => .addRole id role
  | .isAdmin id => (id.resolve? locals).map .isAdmin
  | .clear => some .clear
  | .size => some .size

/-- The current store after a step on it. -/
def StoreStep.applied (locals : Locals) (store : Store) (step : StoreStep) : Store :=
  match step.operation? locals with
  | none => store
  | some operation => (store.perform operation).1

/-- The user that an operation answers with. -/
def Store.Operation.found? (store : Store) : Store.Operation → Option User
  | .get id => store.get? id
  | .remove id => store.get? id
  | _ => none

namespace Session

variable {source : Source} {session : Session}

/-! ## Runs -/

theorem run_cons (source : Source) (session : Session) (step : Step) (steps : List Step) :
    session.run source (step :: steps) =
      let outcome := session.step source step
      let rest := outcome.1.run source steps
      (rest.1, (outcome.2, outcome.1.current.size) :: rest.2) :=
  rfl

/-! ## Steps on local users -/

/-- A session with other stores. -/
def withStores (stores : Stores) (session : Session) : Session :=
  { session with stores }

/-- What keeps the local users may be done before a user is looked up or afterwards. -/
theorem withUser_map {change : Session → Session}
    (keeps : (change session).locals = session.locals) {handle : String}
    {next other : User → Outcome}
    (each : ∀ user, other user = (change (next user).1, (next user).2)) :
    (change session).withUser handle other =
      (change (session.withUser handle next).1, (session.withUser handle next).2) := by
  unfold withUser
  rw [keeps]
  cases session.locals.get? handle with
  | none => rfl
  | some user => exact each user

theorem withUser_withStores (stores : Stores) {handle : String} {next other : User → Outcome}
    (each : ∀ user, other user = ((next user).1.withStores stores, (next user).2)) :
    (session.withStores stores).withUser handle other =
      ((session.withUser handle next).1.withStores stores,
        (session.withUser handle next).2) :=
  withUser_map rfl each

theorem stepUser_withStores (source : Source) (session : Session) (stores : Stores)
    (step : LocalStep) :
    (session.withStores stores).stepUser source step =
      ((session.stepUser source step).1.withStores stores,
        (session.stepUser source step).2) := by
  cases step with
  | create handle username email roles => rfl
  | fromSeed handle seed =>
      rw [stepUser, stepUser]
      cases Seed.ofJson seed with
      | error cause => rfl
      | ok seed => rfl
  | equal user other =>
      exact withUser_withStores stores fun _ => withUser_withStores stores fun _ => rfl
  | clone user handle => exact withUser_withStores stores fun _ => rfl
  | addRole user role => exact withUser_withStores stores fun _ => rfl
  | setMetadata user key value => exact withUser_withStores stores fun _ => rfl
  | removeMetadata user key => exact withUser_withStores stores fun _ => rfl
  | clearMetadata user => exact withUser_withStores stores fun _ => rfl
  | user user => exact withUser_withStores stores fun _ => rfl
  | fields user => exact withUser_withStores stores fun _ => rfl
  | json user => exact withUser_withStores stores fun _ => rfl
  | hasRole user role => exact withUser_withStores stores fun _ => rfl
  | isAdmin user => exact withUser_withStores stores fun _ => rfl
  | getMetadata user key => exact withUser_withStores stores fun _ => rfl
  | metadata user => exact withUser_withStores stores fun _ => rfl

/-- A step on a local user leaves the stores alone: what it does does not depend on them. -/
@[simp] theorem stores_stepUser (source : Source) (session : Session) (step : LocalStep) :
    (session.stepUser source step).1.stores = session.stores :=
  congrArg (fun outcome => outcome.1.stores)
    (stepUser_withStores source session session.stores step)

theorem get?_stepUser_of_ne (source : Source) (session : Session) (step : LocalStep)
    {handle : String} (other : step.target? ≠ some handle) :
    (session.stepUser source step).1.locals.get? handle = session.locals.get? handle := by
  have kept {target : String} (user : User) (named : step.target? = some target) :
      (session.keep target user).locals.get? handle = session.locals.get? handle := by
    rw [keep, Locals.get?_keep, if_neg]
    rintro rfl
    exact other named
  have withUser {target : String} {next : User → Outcome}
      (each : ∀ user, (next user).1.locals.get? handle = session.locals.get? handle) :
      (session.withUser target next).1.locals.get? handle = session.locals.get? handle := by
    unfold Session.withUser
    cases session.locals.get? target with
    | none => rfl
    | some user => exact each user
  cases step with
  | create target username email roles => exact kept _ rfl
  | fromSeed target seed =>
      rw [stepUser]
      cases Seed.ofJson seed with
      | error cause => rfl
      | ok seed => exact kept _ rfl
  | clone user target => exact withUser fun found => kept found rfl
  | addRole target role => exact withUser fun _ => kept _ rfl
  | setMetadata target key value => exact withUser fun _ => kept _ rfl
  | removeMetadata target key => exact withUser fun _ => kept _ rfl
  | clearMetadata target => exact withUser fun _ => kept _ rfl
  | equal user other => exact withUser fun _ => withUser fun _ => rfl
  | user user => exact withUser fun _ => rfl
  | fields user => exact withUser fun _ => rfl
  | json user => exact withUser fun _ => rfl
  | hasRole user role => exact withUser fun _ => rfl
  | isAdmin user => exact withUser fun _ => rfl
  | getMetadata user key => exact withUser fun _ => rfl
  | metadata user => exact withUser fun _ => rfl

/-! ## Steps on the current store -/

@[simp] theorem setCurrent_current (session : Session) :
    session.setCurrent session.current = session := by
  simp [setCurrent, current]

/-- Keeps a user that was found, if one was. -/
def keepFound (session : Session) (handle : Option String) : Option User → Session
  | none => session
  | some user => session.keepUnder handle user

@[simp] theorem stores_keepFound (session : Session) (handle : Option String)
    (found : Option User) : (session.keepFound handle found).stores = session.stores := by
  cases found with
  | none => rfl
  | some user => cases handle <;> rfl

theorem get?_keepFound (session : Session) (target : Option String) (found : Option User)
    (handle : String) :
    (session.keepFound target found).locals.get? handle =
      if target = some handle then found.or (session.locals.get? handle)
      else session.locals.get? handle := by
  cases found with
  | none => simp [keepFound]
  | some user =>
      cases target with
      | none => rfl
      | some target =>
          rw [keepFound, keepUnder, keep, Locals.get?_keep]
          simp [eq_comm]

/-- What an operation on the current store does to a session and answers. -/
theorem perform_eq (session : Session) (handle : Option String)
    (operation : Store.Operation) :
    session.perform handle operation =
      ((session.setCurrent (session.current.perform operation).1).keepFound handle
          (operation.found? session.current),
        match (session.current.perform operation).2 with
        | .ok answer => .ok (.store answer)
        | .error cause => .error (.refused cause)) := by
  cases operation with
  | insert user =>
      simp only [perform, Store.perform]
      cases session.current.insert user with
      | ok next => rfl
      | error cause =>
          simp only [fail, Store.Operation.found?, keepFound, setCurrent_current]
  | addRole id role =>
      simp only [perform, Store.perform]
      cases session.current.addRole id role with
      | ok next => rfl
      | error cause =>
          simp only [fail, Store.Operation.found?, keepFound, setCurrent_current]
  | isAdmin id =>
      simp only [perform, Store.perform]
      cases session.current.isAdmin id with
      | ok flag => rfl
      | error cause =>
          simp only [fail, Except.map, Store.Operation.found?, keepFound, setCurrent_current]
  | get id =>
      simp only [perform, Store.perform, Store.Operation.found?]
      cases session.current.get? id <;> rfl
  | remove id =>
      simp only [perform, Store.perform, Store.Operation.found?]
      cases session.current.get? id <;> rfl
  | contains => rfl
  | findByUsername => rfl
  | admins => rfl
  | all => rfl
  | clear => rfl
  | size => rfl
  | isEmpty => rfl

/-- What a step on the store leaves: the current store after its operation, and the user
that was found, if any, under its handle. -/
theorem stepStore_fst (session : Session) (step : StoreStep) :
    (session.stepStore step).1 =
      match step.operation? session.locals with
      | none => session
      | some operation =>
        (session.setCurrent (session.current.perform operation).1).keepFound step.target?
          (operation.found? session.current) := by
  have performed (handle : Option String) (operation : Store.Operation) :
      (session.perform handle operation).1 =
        (session.setCurrent (session.current.perform operation).1).keepFound handle
          (operation.found? session.current) :=
    congrArg Prod.fst (perform_eq session handle operation)
  have byId (reference : Reference) (handle : Option String)
      (make : Uuid → Store.Operation) :
      (session.withId reference fun id => session.perform handle (make id)).1 =
        match (reference.resolve? session.locals).map make with
        | none => session
        | some operation =>
          (session.setCurrent (session.current.perform operation).1).keepFound handle
            (operation.found? session.current) := by
    cases reference with
    | id id => exact performed handle (make id)
    | handle name =>
        rw [withId, withUser, Reference.resolve?]
        cases session.locals.get? name with
        | none => rfl
        | some user => exact performed handle (make user.id)
  cases step with
  | insert name =>
      rw [stepStore, withUser, StoreStep.operation?]
      cases session.locals.get? name with
      | none => rfl
      | some user => exact performed none (.insert user)
  | get id handle => exact byId id handle .get
  | remove id handle => exact byId id handle .remove
  | contains id => exact byId id none .contains
  | addRole id role => exact byId id none fun id => .addRole id role
  | isAdmin id => exact byId id none .isAdmin
  | find username => exact performed none (.findByUsername username)
  | admins => exact performed none .admins
  | all => exact performed none .all
  | clear => exact performed none .clear
  | pretty => exact (setCurrent_current session).symm
  | size => exact (setCurrent_current session).symm

theorem stores_stepStore (session : Session) (step : StoreStep) :
    (session.stepStore step).1.stores =
      session.stores.setCurrent (step.applied session.locals session.current) := by
  rw [stepStore_fst, StoreStep.applied]
  cases step.operation? session.locals with
  | none => exact (Stores.setCurrent_current session.stores).symm
  | some operation => exact stores_keepFound _ _ _

@[simp] theorem current_stepStore (session : Session) (step : StoreStep) :
    (session.stepStore step).1.current = step.applied session.locals session.current := by
  rw [current, stores_stepStore, Stores.current_setCurrent]

/-- The user that a step on the store answers with. -/
def found? (session : Session) (step : StoreStep) : Option User :=
  (step.operation? session.locals).bind fun operation =>
    operation.found? session.current

/-- Of the local users a step on the store changes only the one that becomes a copy of
the user found. -/
theorem get?_stepStore (session : Session) (step : StoreStep) (handle : String) :
    (session.stepStore step).1.locals.get? handle =
      if step.target? = some handle then
        (session.found? step).or (session.locals.get? handle)
      else session.locals.get? handle := by
  rw [stepStore_fst, found?]
  cases step.operation? session.locals with
  | none => simp
  | some operation => exact get?_keepFound _ _ _ _

end Session

end UserRegistry
