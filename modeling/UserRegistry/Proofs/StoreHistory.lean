import UserRegistry.Proofs.StoreTable

/-!
# Histories of a store

`Change` lists the five things that an operation can do to a store.  Every
invariant of histories goes through it, so that no other proof looks into
`Store.perform`.  The table may enumerate its entries in another order whenever it
is looked at; `Reachable` therefore allows a rearrangement between any two
operations.
-/

namespace UserRegistry

namespace Store

/-- What an operation can do to a store. -/
inductive Change (store : Store) : Operation → Store → Prop where
  | nothing (operation : Operation) : Change store operation store
  | insert {user : User} {next : Store} :
      store.insert user = .ok next → Change store (.insert user) next
  | erase (id : Uuid) : Change store (.remove id) (store.erase id)
  | addRole {id : Uuid} {role : String} {next : Store} :
      store.addRole id role = .ok next → Change store (.addRole id role) next
  | clear : Change store .clear store.clear

theorem change_perform (store : Store) (operation : Operation) :
    store.Change operation (store.perform operation).1 := by
  cases operation with
  | insert user =>
      rw [perform]
      cases inserted : store.insert user with
      | ok next => exact .insert inserted
      | error cause => exact .nothing _
  | addRole id role =>
      rw [perform]
      cases added : store.addRole id role with
      | ok next => exact .addRole added
      | error cause => exact .nothing _
  | remove id => exact .erase id
  | clear => exact .clear
  | get => exact .nothing _
  | contains => exact .nothing _
  | findByUsername => exact .nothing _
  | isAdmin => exact .nothing _
  | admins => exact .nothing _
  | all => exact .nothing _
  | size => exact .nothing _
  | isEmpty => exact .nothing _

/-! ## Tables keyed by identifiers -/

theorem keyed_of_entries_nil {store : Store} (empty : store.entries = []) : store.Keyed where
  filed := by simp [empty]
  distinct := by simp [ids, empty]

theorem keyed_withCapacity (capacity : Nat) : (withCapacity capacity).Keyed :=
  keyed_of_entries_nil rfl

theorem Keyed.change {store next : Store} {operation : Operation}
    (keyed : store.Keyed) (change : store.Change operation next) :
    next.Keyed := by
  cases change with
  | nothing => exact keyed
  | insert inserted => exact keyed.insert inserted
  | erase id => exact keyed.erase id
  | addRole added => exact keyed.addRole added
  | clear => exact keyed_of_entries_nil rfl

theorem Keyed.perform {store : Store} (keyed : store.Keyed)
    (operation : Operation) : (store.perform operation).1.Keyed :=
  keyed.change (store.change_perform operation)

theorem Keyed.perm {store arranged : Store} (keyed : store.Keyed)
    (rearranged : arranged.entries.Perm store.entries) : arranged.Keyed := by
  constructor
  · intro id user member
    exact keyed.filed id user (rearranged.mem_iff.mp member)
  · have sameIds : arranged.ids.Perm store.ids := rearranged.map Prod.fst
    exact sameIds.nodup_iff.mpr keyed.distinct

theorem Keyed.get?_of_mem_users {store : Store} (keyed : store.Keyed)
    {user : User} (stored : user ∈ store.users) :
    store.get? user.id = some user := by
  obtain ⟨⟨id, present⟩, member, rfl⟩ := List.mem_map.mp stored
  rw [keyed.filed id present member]
  exact (get?_eq_some_iff keyed.distinct).mpr member

/-- In a keyed store, users are told apart by their identifiers. -/
theorem Keyed.eq_of_id_eq {store : Store} (keyed : store.Keyed)
    {left right : User} (leftStored : left ∈ store.users)
    (rightStored : right ∈ store.users) (same : left.id = right.id) :
    left = right := by
  have leftFound := keyed.get?_of_mem_users leftStored
  have rightFound := keyed.get?_of_mem_users rightStored
  rw [same, rightFound] at leftFound
  exact (Option.some.inj leftFound).symm

theorem Keyed.users_nodup {store : Store} (keyed : store.Keyed) :
    store.users.Nodup := by
  have ownIds : store.users.map User.id = store.ids := by
    rw [users, ids, List.map_map]
    refine List.map_congr_left ?_
    intro entry member
    exact keyed.filed entry.1 entry.2 member
  exact List.Nodup.of_map User.id (ownIds ▸ keyed.distinct)

/-! ## Reachable stores -/

/-- The stores that operations lead to from an empty one of any capacity, whatever the
order in which the table enumerates its entries from time to time. -/
inductive Reachable : Store → Prop where
  | withCapacity (capacity : Nat) : Reachable (.withCapacity capacity)
  | perform {store : Store} (operation : Operation) :
      Reachable store → Reachable (store.perform operation).1
  | rearrange {store arranged : Store} :
      Reachable store → arranged.entries.Perm store.entries →
      Reachable arranged

theorem Reachable.performAll {store : Store} (reachable : store.Reachable)
    (operations : List Operation) :
    (store.performAll operations).1.Reachable := by
  induction operations generalizing store with
  | nil => exact reachable
  | cons operation operations induction =>
      exact induction (reachable.perform operation)

theorem Reachable.keyed {store : Store} (reachable : store.Reachable) :
    store.Keyed := by
  induction reachable with
  | withCapacity capacity => exact keyed_withCapacity capacity
  | perform operation _ keyed => exact keyed.perform operation
  | rearrange _ rearranged keyed => exact keyed.perm rearranged

end Store

end UserRegistry
