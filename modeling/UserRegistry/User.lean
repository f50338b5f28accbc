import UserRegistry.Instant
import UserRegistry.Json.Printer
import UserRegistry.Seed
import UserRegistry.Uuid

/-!
# Users

A user, its roles in the order in which they were first given, and its metadata.
Identifiers and creation times come from a `Source`, which numbers the users it
makes.
-/

namespace UserRegistry

/-- A user.  Identifier, username, email and creation time stay as they were made; roles
and metadata may change. -/
structure User where
  id : Uuid
  username : String
  email : String
  createdAt : Instant
  roles : List String
  metadata : Json.Members

/-- The one role that has a meaning for the program. -/
def adminRole : String :=
  "admin"

namespace Roles

/-- Adds a role behind the others unless it is there. -/
def add (roles : List String) (role : String) : List String :=
  if role ∈ roles then roles else roles ++ [role]

/-- The given roles without repetitions, each where it comes first. -/
def ofList (roles : List String) : List String :=
  roles.foldl add []

end Roles

namespace User

/-- A user without metadata; of equal roles the first is kept. -/
def create (id : Uuid) (createdAt : Instant) (username email : String)
    (roles : Option (List String)) : User :=
  { id, username, email, createdAt
    roles := Roles.ofList (roles.getD [])
    metadata := [] }

def addRole (user : User) (role : String) : User :=
  { user with roles := Roles.add user.roles role }

def hasRole (user : User) (role : String) : Bool :=
  role ∈ user.roles

/-- Whether a user is an administrator: the role counts only in its exact spelling. -/
def isAdmin (user : User) : Bool :=
  user.hasRole adminRole

/-- Binds a key of the metadata, in place of an earlier binding. -/
def setMetadata (user : User) (key : String) (value : Json) : User :=
  { user with metadata := user.metadata.insert key value }

def eraseMetadata (user : User) (key : String) : User :=
  { user with metadata := user.metadata.erase key }

def clearMetadata (user : User) : User :=
  { user with metadata := [] }

/-- Equality in all six fields; numbers of the metadata are compared as numbers. -/
def same (left right : User) : Bool :=
  left.id = right.id && left.username = right.username && left.email = right.email
    && left.createdAt = right.createdAt && left.roles = right.roles
    && Json.sameMembers left.metadata right.metadata

/-- The object of a user: all six fields, in the order of their declaration. -/
def toJson (user : User) : Json :=
  .object
    [ ("id", .string user.id.text),
      ("username", .string user.username),
      ("email", .string user.email),
      ("created_at", .string user.createdAt.text),
      ("roles", .array (user.roles.map .string)),
      ("metadata", .object user.metadata) ]

/-- The text of one user, on one line. -/
def json (user : User) : String :=
  user.toJson.compact

/-- The text that a run prints of users, without the line break at its end. -/
def prettyList (users : List User) : String :=
  (Json.array (users.map toJson)).pretty

end User

/-- Where identifiers and creation times come from: for the `n`-th user, random
bits and the time on the clock. -/
structure Source where
  bits : Nat → BitVec 128
  clock : Nat → Instant

namespace Source

/-- The source that gives out `ids` and `times` in turn.  After the last number,
the `n`-th user has the bits `n + 1`, and after the last time, `n` seconds past
the start of 2024. -/
def ofLists (ids : List (BitVec 128)) (times : List Instant) : Source where
  bits n := ids.getD n (.ofNat 128 (n + 1))
  clock n := times.getD n ⟨1704067200 + n, 0⟩

/-- The `n`-th user of a source, with a random identifier and the time on the clock. -/
def create (source : Source) (n : Nat) (username email : String)
    (roles : Option (List String)) : User :=
  .create (.random (source.bits n)) (source.clock n) username email roles

/-- The `n`-th user of a source, made from a seed with its metadata. -/
def sow (source : Source) (n : Nat) (seed : Seed) : User :=
  let user := source.create n seed.username seed.email seed.roles
  { user with metadata := user.metadata.insertAll seed.metadata }

end Source

end UserRegistry
