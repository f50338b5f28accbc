import UserRegistry.User

/-!
# Stores

A store is a table of users, each filed under an identifier.  The table may keep
its entries in any order.  The listings are ordered by creation time and then by
identifier, so that they do not depend on that order.
-/

namespace UserRegistry

/-- A store of users: the entries of its table, in the order in which the table
enumerates them, and the number of entries that it was asked to have room for. -/
structure Store where
  entries : List (Uuid × User)
  capacity : Nat

/-- Why an operation on a store is refused. -/
inductive StoreError where
  | userNotFound (id : Uuid)
  | duplicateUser (id : Uuid)
  deriving DecidableEq

def StoreError.message : StoreError → String
  | .userNotFound id => String.join ["User not found: ", id.text]
  | .duplicateUser id => String.join ["User already exists: ", id.text]

/-- Whether one user is listed before another: the older first, of users of one
age the one with the smaller identifier. -/
def User.listedBefore (left right : User) : Bool :=
  if left.createdAt.seconds = right.createdAt.seconds then
    if left.createdAt.nanoseconds = right.createdAt.nanoseconds then left.id.le right.id
    else left.createdAt.nanoseconds < right.createdAt.nanoseconds
  else left.createdAt.seconds < right.createdAt.seconds

namespace Store

/-- A store of nobody that was asked to have room for so many users. -/
def withCapacity (capacity : Nat) : Store :=
  ⟨[], capacity⟩

def empty : Store :=
  withCapacity 0

/-- The stored users in the order of the table, which tells nothing of their age. -/
def users (store : Store) : List User :=
  store.entries.map Prod.snd

/-- A copy of the user filed under an identifier. -/
def get? (store : Store) (id : Uuid) : Option User :=
  store.entries.lookup id

def contains (store : Store) (id : Uuid) : Bool :=
  (store.get? id).isSome

/-- Files a user under its identifier, which must be free. -/
def insert (store : Store) (user : User) : Except StoreError Store :=
  if store.contains user.id then .error (.duplicateUser user.id)
  else .ok { store with entries := store.entries ++ [(user.id, user)] }

/-- Takes the user filed under an identifier out of the store, if there is one. -/
def erase (store : Store) (id : Uuid) : Store :=
  { store with entries := store.entries.filter fun entry => entry.1 ≠ id }

/-- Takes all users out; the room for them stays. -/
def clear (store : Store) : Store :=
  { store with entries := [] }

/-- Adds a role to the user filed under an identifier, in the place where it is. -/
def addRole (store : Store) (id : Uuid) (role : String) : Except StoreError Store :=
  if store.contains id then
    .ok { store with
      entries := store.entries.map fun (key, user) =>
        (key, if key = id then user.addRole role else user) }
  else .error (.userNotFound id)

/-- Whether the user filed under an identifier is an administrator. -/
def isAdmin (store : Store) (id : Uuid) : Except StoreError Bool :=
  match store.get? id with
  | some user => .ok user.isAdmin
  | none => .error (.userNotFound id)

/-- The stored users that meet a condition, in listing order. -/
def listing (store : Store) (condition : User → Bool) : List User :=
  (store.users.filter condition).mergeSort User.listedBefore

/-- All stored users, the oldest first. -/
def all (store : Store) : List User :=
  store.listing fun _ => true

/-- The administrators among the stored users, the oldest first. -/
def admins (store : Store) : List User :=
  store.listing User.isAdmin

/-- The users of a username, which several may share. -/
def findByUsername (store : Store) (username : String) : List User :=
  store.listing fun user => user.username = username

def size (store : Store) : Nat :=
  store.entries.length

def isEmpty (store : Store) : Bool :=
  store.entries.isEmpty

end Store

end UserRegistry
