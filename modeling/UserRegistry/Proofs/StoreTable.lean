import UserRegistry.Proofs.Associations
import UserRegistry.Store.Operation

/-!
# The table of a store

What each operation does to the entries of a store, told twice: as a change of the
table and as a change of what is found under an identifier.  The second reading
holds of every table, since a lookup takes the first entry that fits.  Membership
in the table agrees with it only while no identifier is filed twice, which is half
of the invariant `Keyed`; the other half is that every user is filed under its own
identifier.
-/

namespace UserRegistry

namespace Store

/-- The identifiers under which users are filed. -/
def ids (store : Store) : List Uuid :=
  store.entries.map Prod.fst

/-- Every user is filed under its own identifier, and no identifier is filed
twice. -/
structure Keyed (store : Store) : Prop where
  filed : ∀ id user, (id, user) ∈ store.entries → user.id = id
  distinct : store.ids.Nodup

/-! ## Lookups -/

theorem get?_eq_none_iff {store : Store} {id : Uuid} :
    store.get? id = none ↔ id ∉ store.ids :=
  Associations.lookup_eq_none_iff_not_mem

theorem contains_eq_true_iff {store : Store} {id : Uuid} :
    store.contains id = true ↔ id ∈ store.ids := by
  rw [contains, ← not_iff_not, ← get?_eq_none_iff, Bool.not_eq_true,
    Option.isSome_eq_false_iff, Option.isNone_iff_eq_none]

theorem contains_eq_false_iff {store : Store} {id : Uuid} :
    store.contains id = false ↔ store.get? id = none := by
  rw [contains, Option.isSome_eq_false_iff, Option.isNone_iff_eq_none]

theorem mem_entries_of_get? {store : Store} {id : Uuid} {user : User}
    (found : store.get? id = some user) : (id, user) ∈ store.entries :=
  Associations.mem_of_lookup found

theorem get?_eq_some_iff {store : Store} (distinct : store.ids.Nodup)
    {id : Uuid} {user : User} :
    store.get? id = some user ↔ (id, user) ∈ store.entries :=
  Associations.lookup_eq_some_iff_mem distinct

/-! ## Insertion -/

theorem insert_eq_ok_iff {store next : Store} {user : User} :
    store.insert user = .ok next ↔
      store.get? user.id = none ∧
        next = { store with entries := store.entries ++ [(user.id, user)] } := by
  rw [← contains_eq_false_iff, insert]
  cases store.contains user.id with
  | true => simp
  | false => simp [eq_comm]

theorem insert_eq_error_iff {store : Store} {user : User} {cause : StoreError} :
    store.insert user = .error cause ↔
      store.contains user.id = true ∧ cause = .duplicateUser user.id := by
  rw [insert]
  cases store.contains user.id with
  | true => simp [eq_comm]
  | false => simp

theorem users_insert {store next : Store} {user : User}
    (inserted : store.insert user = .ok next) : next.users = store.users ++ [user] := by
  obtain ⟨_, rfl⟩ := insert_eq_ok_iff.mp inserted
  simp [users]

theorem get?_insert {store next : Store} {user : User}
    (inserted : store.insert user = .ok next) (id : Uuid) :
    next.get? id = if id = user.id then some user else store.get? id := by
  obtain ⟨free, rfl⟩ := insert_eq_ok_iff.mp inserted
  unfold get? at free ⊢
  rw [List.lookup_append, Associations.lookup_cons_eq_ite, List.lookup_nil]
  by_cases same : id = user.id
  · rw [same, free]
    simp
  · simp [same]

theorem Keyed.insert {store next : Store} (keyed : store.Keyed) {user : User}
    (inserted : store.insert user = .ok next) : next.Keyed := by
  obtain ⟨free, rfl⟩ := insert_eq_ok_iff.mp inserted
  constructor
  · intro id present member
    rcases List.mem_append.mp member with old | new
    · exact keyed.filed id present old
    · cases List.mem_singleton.mp new
      rfl
  · have absent : user.id ∉ store.ids := get?_eq_none_iff.mp free
    simpa [ids] using keyed.distinct.concat absent

/-! ## Removal -/

theorem get?_erase (store : Store) (removed id : Uuid) :
    (store.erase removed).get? id =
      if id = removed then none else store.get? id :=
  Associations.lookup_filter_ne removed id store.entries

theorem Keyed.erase {store : Store} (keyed : store.Keyed) (removed : Uuid) :
    (store.erase removed).Keyed := by
  constructor
  · intro id user member
    exact keyed.filed id user (List.mem_of_mem_filter member)
  · have fewer : (store.erase removed).ids.Sublist store.ids :=
      List.filter_sublist.map Prod.fst
    exact keyed.distinct.sublist fewer

/-! ## Roles -/

theorem addRole_eq_ok_iff {store next : Store} {id : Uuid} {role : String} :
    store.addRole id role = .ok next ↔
      store.contains id = true ∧
        next = { store with
          entries := store.entries.map fun entry =>
            (entry.1, if entry.1 = id then entry.2.addRole role else entry.2) } := by
  rw [addRole]
  cases store.contains id with
  | true => simp [eq_comm]
  | false => simp

theorem addRole_eq_error_iff {store : Store} {id : Uuid} {role : String}
    {cause : StoreError} :
    store.addRole id role = .error cause ↔
      store.get? id = none ∧ cause = .userNotFound id := by
  rw [← contains_eq_false_iff, addRole]
  cases store.contains id with
  | true => simp
  | false => simp [eq_comm]

theorem get?_addRole {store next : Store} {changed : Uuid} {role : String}
    (added : store.addRole changed role = .ok next) (id : Uuid) :
    next.get? id =
      if id = changed then (store.get? id).map (User.addRole · role)
      else store.get? id := by
  obtain ⟨_, rfl⟩ := addRole_eq_ok_iff.mp added
  -- keys are mapped to themselves, so that lookups go through the same entries
  unfold get?
  dsimp only
  induction store.entries with
  | nil => simp
  | cons entry entries induction =>
      obtain ⟨key, user⟩ := entry
      rw [List.map_cons, Associations.lookup_cons_eq_ite,
        Associations.lookup_cons_eq_ite, induction]
      by_cases here : id = key
      · subst key
        by_cases same : id = changed
        · simp [same]
        · simp [same]
      · simp [here]

theorem Keyed.addRole {store next : Store} (keyed : store.Keyed)
    {changed : Uuid} {role : String}
    (added : store.addRole changed role = .ok next) : next.Keyed := by
  obtain ⟨_, rfl⟩ := addRole_eq_ok_iff.mp added
  constructor
  · intro id user member
    obtain ⟨entry, present, equality⟩ := List.mem_map.mp member
    obtain ⟨rfl, rfl⟩ := Prod.mk.inj equality
    have own : entry.2.id = entry.1 := keyed.filed entry.1 entry.2 present
    split
    · exact own
    · exact own
  · have distinct := keyed.distinct
    simpa [ids, Function.comp_def] using distinct

end Store

end UserRegistry
