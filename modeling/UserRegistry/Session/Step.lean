import UserRegistry.Config.Loading
import UserRegistry.Seeding
import UserRegistry.Store.Operation

/-!
# Steps of a session

The steps on local users, on the current store and on the stores as a whole, the
answers they give and the ways in which they fail.
-/

namespace UserRegistry

/-- An identifier, or the handle of the user who has it. -/
inductive Reference where
  | id (id : Uuid)
  | handle (name : String)

/-- A step on users known by handles. -/
inductive LocalStep where
  | create (handle username email : String) (roles : Option (List String))
  | fromSeed (handle : String) (seed : Json)
  | clone (user handle : String)
  | user (user : String)
  | fields (user : String)
  | json (user : String)
  | addRole (user role : String)
  | hasRole (user role : String)
  | isAdmin (user : String)
  | equal (user other : String)
  | setMetadata (user key : String) (value : Json)
  | getMetadata (user key : String)
  | removeMetadata (user key : String)
  | clearMetadata (user : String)
  | metadata (user : String)

/-- A step on the current store. -/
inductive StoreStep where
  | insert (user : String)
  | get (id : Reference) (handle : Option String)
  | remove (id : Reference) (handle : Option String)
  | contains (id : Reference)
  | find (username : String)
  | admins
  | all
  | pretty
  | addRole (id : Reference) (role : String)
  | isAdmin (id : Reference)
  | clear
  | size

/-- A step on the stores as a whole: a store of its own, a new configuration with its
store, or users from seeds, those of the configuration unless others are given. -/
inductive StateStep where
  | renew
  | load (text : String)
  | seed (seeds : Option (List Json))

inductive Step where
  | onUser (step : LocalStep)
  | onStore (step : StoreStep)
  | onState (step : StateStep)

/-- What a step shows. -/
inductive Answer where
  | nothing
  | flag (value : Bool)
  | text (value : String)
  | names (values : List String)
  | user (value : User)
  | fields (value : User)
  | value (value : Option Json)
  | members (value : Json.Members)
  | store (value : Store.Answer)
  | size (users : Nat) (empty : Bool)
  | config (value : Config)
  | seeds (count : Nat)

/-- Why a step fails. -/
inductive Failure where
  | unknownHandle (handle : String)
  | nothingLoaded
  | badSeed (cause : ReadError)
  | notLoaded (cause : LoadError)
  | refused (cause : StoreError)
  | stopped (cause : SeedingError)

end UserRegistry
