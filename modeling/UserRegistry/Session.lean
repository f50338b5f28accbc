import UserRegistry.Registry
import UserRegistry.Session.Step
import UserRegistry.Session.Stores

/-!
# Sessions

A session works on local users, which it knows by handles, on a current store
and on the store of the configuration loaded last.  Steps answer one by one; a
step that fails changes nothing, except that seeding keeps the users stored
before it stopped.
-/

namespace UserRegistry

/-- The state of a session; `created` counts the users made so far. -/
structure Session where
  stores : Stores
  locals : Locals
  created : Nat

/-- Nothing is loaded, nobody is known and nobody was made. -/
def Session.start : Session :=
  ⟨.unloaded .empty, [], 0⟩

/-- The store that the steps on a store work on. -/
def Session.current (session : Session) : Store :=
  session.stores.current

/-- A session after a step, and the step's answer. -/
abbrev Outcome := Session × Except Failure Answer

namespace Session

/-- A step that fails leaves the session as it is. -/
def fail (session : Session) (failure : Failure) : Outcome :=
  (session, .error failure)

def answer (session : Session) (answer : Answer) : Outcome :=
  (session, .ok answer)

def keep (session : Session) (handle : String) (user : User) : Session :=
  { session with locals := session.locals.keep handle user }

/-- Keeps a user under a handle, if there is one. -/
def keepUnder (session : Session) (handle : Option String) (user : User) : Session :=
  match handle with
  | none => session
  | some handle => session.keep handle user

/-- Goes on with the user known by a handle, or fails. -/
def withUser (session : Session) (handle : String) (next : User → Outcome) : Outcome :=
  match session.locals.get? handle with
  | none => session.fail (.unknownHandle handle)
  | some user => next user

/-- Goes on with the identifier that is meant, or fails if it is that of an unknown
handle. -/
def withId (session : Session) (id : Reference) (next : Uuid → Outcome) : Outcome :=
  match id with
  | .id id => next id
  | .handle name => session.withUser name fun user => next user.id

def setCurrent (session : Session) (store : Store) : Session :=
  { session with stores := session.stores.setCurrent store }

/-- Makes a step on local users, which no store notices. -/
def stepUser (source : Source) (session : Session) : LocalStep → Outcome
  | .create handle username email roles =>
    let user := source.create session.created username email roles
    ({ session.keep handle user with created := session.created + 1 }, .ok (.user user))
  | .fromSeed handle seed =>
    match Seed.ofJson seed with
    | .error cause => session.fail (.badSeed cause)
    | .ok seed =>
      let user := source.sow session.created seed
      ({ session.keep handle user with created := session.created + 1 }, .ok (.user user))
  | .clone user handle =>
    session.withUser user fun found => (session.keep handle found, .ok .nothing)
  | .user user => session.withUser user fun found => session.answer (.user found)
  | .fields user => session.withUser user fun found => session.answer (.fields found)
  | .json user => session.withUser user fun found => session.answer (.text found.json)
  | .addRole user role =>
    session.withUser user fun found =>
      let changed := found.addRole role
      (session.keep user changed, .ok (.names changed.roles))
  | .hasRole user role =>
    session.withUser user fun found => session.answer (.flag (found.hasRole role))
  | .isAdmin user => session.withUser user fun found => session.answer (.flag found.isAdmin)
  | .equal user other =>
    session.withUser user fun left =>
      session.withUser other fun right => session.answer (.flag (left.same right))
  | .setMetadata user key value =>
    session.withUser user fun found =>
      (session.keep user (found.setMetadata key value.canonical),
        .ok (.value (found.metadata.get? key)))
  | .getMetadata user key =>
    session.withUser user fun found => session.answer (.value (found.metadata.get? key))
  | .removeMetadata user key =>
    session.withUser user fun found =>
      (session.keep user (found.eraseMetadata key), .ok (.value (found.metadata.get? key)))
  | .clearMetadata user =>
    session.withUser user fun found => (session.keep user found.clearMetadata, .ok .nothing)
  | .metadata user => session.withUser user fun found => session.answer (.members found.metadata)

/-- Carries out an operation on the current store.  A user found by it is also
kept under a handle, if there is a handle. -/
def perform (session : Session) (handle : Option String) (operation : Store.Operation) :
    Outcome :=
  let (store, answer) := session.current.perform operation
  match answer with
  | .error cause => session.fail (.refused cause)
  | .ok answer =>
    let next := session.setCurrent store
    match answer with
    | .user (some user) => (next.keepUnder handle user, .ok (.store answer))
    | _ => (next, .ok (.store answer))

/-- Makes a step on the current store. -/
def stepStore (session : Session) : StoreStep → Outcome
  | .insert user => session.withUser user fun found => session.perform none (.insert found)
  | .get id handle => session.withId id fun id => session.perform handle (.get id)
  | .remove id handle => session.withId id fun id => session.perform handle (.remove id)
  | .contains id => session.withId id fun id => session.perform none (.contains id)
  | .find username => session.perform none (.findByUsername username)
  | .admins => session.perform none .admins
  | .all => session.perform none .all
  | .pretty => session.answer (.text (User.prettyList session.current.all))
  | .addRole id role => session.withId id fun id => session.perform none (.addRole id role)
  | .isAdmin id => session.withId id fun id => session.perform none (.isAdmin id)
  | .clear => session.perform none .clear
  | .size => session.answer (.size session.current.size session.current.isEmpty)

/-- Seeds users into the store of the loaded configuration.  Those stored before seeding
stopped stay in it, and their numbers are used up. -/
def seedLoaded (source : Source) (session : Session) (store : Store) (seeds : List Seed) :
    Outcome :=
  let seeding := store.sow source session.created seeds
  ({ session with
      stores := session.stores.setLoaded seeding.store
      created := seeding.created },
    match seeding.answer seeds with
    | .ok count => .ok (.seeds count)
    | .error cause => .error (.stopped cause))

/-- Makes a step on the stores as a whole.  Seeding goes to the store of the loaded
configuration, which need not be the current one. -/
def stepState (source : Source) (session : Session) : StateStep → Outcome
  | .renew => ({ session with stores := session.stores.renew }, .ok .nothing)
  | .load text =>
    match Config.parse text with
    | .error cause => session.fail (.notLoaded cause)
    | .ok config =>
      let registry := Registry.ofConfig config
      ({ session with stores := .joined registry.config registry.users },
        .ok (.config config))
  | .seed seeds =>
    match session.stores.loaded? with
    | none => session.fail .nothingLoaded
    | some (config, store) =>
      match seeds with
      | none => session.seedLoaded source store config.users
      | some values =>
        match values.mapM Seed.ofJson with
        | .error cause => session.fail (.badSeed cause)
        | .ok seeds => session.seedLoaded source store seeds

/-- Makes one step.  It draws on the source only to create users. -/
def step (source : Source) (session : Session) : Step → Outcome
  | .onUser step => session.stepUser source step
  | .onStore step => session.stepStore step
  | .onState step => session.stepState source step

/-- Makes steps in turn and gives, for each, its answer and the size of the
current store after it. -/
def run (source : Source) (session : Session) :
    List Step → Session × List (Except Failure Answer × Nat)
  | [] => (session, [])
  | step :: steps =>
    let (next, answer) := session.step source step
    let (last, answers) := next.run source steps
    (last, (answer, next.current.size) :: answers)

end Session

end UserRegistry
