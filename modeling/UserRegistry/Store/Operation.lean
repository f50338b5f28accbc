import UserRegistry.Store

/-!
# Operations on stores

The operations on a store as data, so that histories of a store can be told:
`Store.perform` carries out one operation and gives its answer, and a failing
operation leaves the store as it is.
-/

namespace UserRegistry

namespace Store

/-- One call on a store. -/
inductive Operation where
  | insert (user : User)
  | get (id : Uuid)
  | contains (id : Uuid)
  | findByUsername (username : String)
  | addRole (id : Uuid) (role : String)
  | isAdmin (id : Uuid)
  | remove (id : Uuid)
  | admins
  | all
  | clear
  | size
  | isEmpty

/-- What a call on a store returns when it is not refused. -/
inductive Answer where
  | done
  | id (value : Uuid)
  | user (value : Option User)
  | users (values : List User)
  | flag (value : Bool)
  | count (value : Nat)

/-- Carries out one operation: the store after it, and its answer. -/
def perform (store : Store) : Operation → Store × Except StoreError Answer
  | .insert user =>
    match store.insert user with
    | .ok next => (next, .ok (.id user.id))
    | .error cause => (store, .error cause)
  | .get id => (store, .ok (.user (store.get? id)))
  | .contains id => (store, .ok (.flag (store.contains id)))
  | .findByUsername username => (store, .ok (.users (store.findByUsername username)))
  | .addRole id role =>
    match store.addRole id role with
    | .ok next => (next, .ok .done)
    | .error cause => (store, .error cause)
  | .isAdmin id => (store, (store.isAdmin id).map .flag)
  | .remove id => (store.erase id, .ok (.user (store.get? id)))
  | .admins => (store, .ok (.users store.admins))
  | .all => (store, .ok (.users store.all))
  | .clear => (store.clear, .ok .done)
  | .size => (store, .ok (.count store.size))
  | .isEmpty => (store, .ok (.flag store.isEmpty))

/-- Carries out operations in turn and gives their answers. -/
def performAll (store : Store) : List Operation → Store × List (Except StoreError Answer)
  | [] => (store, [])
  | operation :: operations =>
    let (next, answer) := store.perform operation
    let (last, answers) := next.performAll operations
    (last, answer :: answers)

end Store

end UserRegistry
