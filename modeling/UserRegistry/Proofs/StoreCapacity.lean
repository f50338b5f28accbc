import UserRegistry.Proofs.SeedingOutcome
import UserRegistry.Store.Operation

/-!
# Stores without their capacity

A store remembers the capacity that it was made with, and never looks at it: to erase it
first and then to operate on the store, or to seed it, comes to the same as to erase it
afterwards, and the answers are the same.
-/

namespace UserRegistry

namespace Store

/-- A store that was asked to have room for nobody. -/
def unreserved (store : Store) : Store :=
  { store with capacity := 0 }

@[simp] theorem unreserved_withCapacity (capacity : Nat) :
    (withCapacity capacity).unreserved = empty :=
  rfl

@[simp] theorem unreserved_unreserved (store : Store) :
    store.unreserved.unreserved = store.unreserved :=
  rfl

@[simp] theorem size_unreserved (store : Store) : store.unreserved.size = store.size :=
  rfl

theorem insert_unreserved (store : Store) (user : User) :
    store.unreserved.insert user = (store.insert user).map unreserved := by
  rw [insert, insert]
  change (if store.contains user.id then _ else _) = _
  split
  · rfl
  · rfl

theorem addRole_unreserved (store : Store) (id : Uuid) (role : String) :
    store.unreserved.addRole id role = (store.addRole id role).map unreserved := by
  rw [addRole, addRole]
  change (if store.contains id then _ else _) = _
  split
  · rfl
  · rfl

theorem perform_unreserved (store : Store) (operation : Operation) :
    store.unreserved.perform operation =
      ((store.perform operation).1.unreserved, (store.perform operation).2) := by
  cases operation with
  | insert user =>
      rw [perform, perform, insert_unreserved]
      cases store.insert user with
      | ok next => rfl
      | error cause => rfl
  | addRole id role =>
      rw [perform, perform, addRole_unreserved]
      cases store.addRole id role with
      | ok next => rfl
      | error cause => rfl
  | get id => rfl
  | contains id => rfl
  | findByUsername username => rfl
  | isAdmin id => rfl
  | remove id => rfl
  | admins => rfl
  | all => rfl
  | clear => rfl
  | size => rfl
  | isEmpty => rfl

theorem sow_unreserved (source : Source) (store : Store) (created : Nat) (seeds : List Seed) :
    store.unreserved.sow source created seeds =
      { store.sow source created seeds with
        store := (store.sow source created seeds).store.unreserved } := by
  induction seeds generalizing store created with
  | nil => rfl
  | cons seed seeds induction =>
      have attempt := insert_unreserved store (source.sow created seed)
      cases inserted : store.insert (source.sow created seed) with
      | error cause =>
          rw [inserted] at attempt
          rw [sow_cons_of_refused seeds attempt, sow_cons_of_refused seeds inserted]
      | ok next =>
          rw [inserted] at attempt
          rw [sow_cons_of_inserted seeds attempt, sow_cons_of_inserted seeds inserted, induction]

end Store

end UserRegistry
