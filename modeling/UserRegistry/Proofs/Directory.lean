import Mathlib.Data.Finmap
import Mathlib.Data.Multiset.Sort
import UserRegistry.Proofs.Listings

/-!
# Stores as finite maps

A `Directory` is the finite map from identifiers to users that a store stands for.
It answers the same operations, each by what is bound and nothing else: it has no
order of entries, and its listings sort the places of its users rather than the
users.  The table of a store may enumerate its entries in a different order at
every moment (`Enumeration`); the answers of a history are those of the map under
all of them.
-/

namespace UserRegistry

/-- A finite map from identifiers to users. -/
abbrev Directory := Finmap fun _ : Uuid => User

namespace Directory

/-- The users that are bound. -/
def users (directory : Directory) : Multiset User :=
  directory.entries.map Sigma.snd

/-- The places of the bound users that meet a condition, in increasing order. -/
def places (directory : Directory) (condition : User → Bool) :
    List (Instant ×ₗ Uuid) :=
  ((directory.users.filter fun user => condition user = true).map User.place).sort

/-- The bound users that meet a condition: at each place stands the user bound to
the identifier of that place. -/
def listing (directory : Directory) (condition : User → Bool) : List User :=
  (directory.places condition).filterMap fun place =>
    directory.lookup (ofLex place).2

/-- Carries out an operation on a map. -/
def perform (directory : Directory) :
    Store.Operation → Directory × Except StoreError Store.Answer
  | .insert user =>
    match directory.lookup user.id with
    | none => (directory.insert user.id user, .ok (.id user.id))
    | some _ => (directory, .error (.duplicateUser user.id))
  | .get id => (directory, .ok (.user (directory.lookup id)))
  | .contains id => (directory, .ok (.flag (decide (id ∈ directory))))
  | .findByUsername username =>
    (directory, .ok (.users (directory.listing fun user => user.username = username)))
  | .addRole id role =>
    match directory.lookup id with
    | none => (directory, .error (.userNotFound id))
    | some user =>
      let roles := if role ∈ user.roles then user.roles else user.roles ++ [role]
      (directory.insert id { user with roles }, .ok .done)
  | .isAdmin id =>
    match directory.lookup id with
    | none => (directory, .error (.userNotFound id))
    | some user => (directory, .ok (.flag (decide ("admin" ∈ user.roles))))
  | .remove id => (directory.erase id, .ok (.user (directory.lookup id)))
  | .admins =>
    (directory, .ok (.users (directory.listing fun user => "admin" ∈ user.roles)))
  | .all => (directory, .ok (.users (directory.listing fun _ => true)))
  | .clear => (∅, .ok .done)
  | .size => (directory, .ok (.count directory.keys.card))
  | .isEmpty => (directory, .ok (.flag (decide (directory.keys.card = 0))))

/-- Carries out operations in turn and gives their answers. -/
def performAll (directory : Directory) :
    List Store.Operation → Directory × List (Except StoreError Store.Answer)
  | [] => (directory, [])
  | operation :: operations =>
    let (next, answer) := directory.perform operation
    let (last, answers) := next.performAll operations
    (last, answer :: answers)

end Directory

namespace Store

/-- The map that a store stands for. -/
def directory (store : Store) : Directory :=
  (store.entries.map fun entry => (⟨entry.1, entry.2⟩ : Σ _ : Uuid, User)).toFinmap

@[simp] theorem lookup_directory (store : Store) (id : Uuid) :
    store.directory.lookup id = store.get? id := by
  rw [directory, Finmap.dlookup_list_toFinmap, get?]
  induction store.entries with
  | nil => rfl
  | cons entry entries induction =>
      obtain ⟨key, user⟩ := entry
      rw [List.map_cons, List.lookup_cons]
      by_cases same : id = key
      · subst key
        rw [List.dlookup_cons_eq, beq_self_eq_true]
      · rw [List.dlookup_cons_ne _ _ same, beq_eq_false_iff_ne.mpr same, induction]

@[simp] theorem mem_directory_iff {store : Store} {id : Uuid} :
    id ∈ store.directory ↔ store.contains id = true := by
  rw [← Finmap.lookup_isSome, lookup_directory, contains]

/-! ## The map after an operation -/

@[simp] theorem directory_withCapacity (capacity : Nat) :
    (withCapacity capacity).directory = ∅ :=
  Finmap.toFinmap_nil

@[simp] theorem directory_clear (store : Store) : store.clear.directory = ∅ :=
  Finmap.toFinmap_nil

theorem directory_insert {store next : Store} {user : User}
    (inserted : store.insert user = .ok next) :
    next.directory = store.directory.insert user.id user := by
  apply Finmap.ext_lookup
  intro id
  rw [lookup_directory, get?_insert inserted]
  by_cases same : id = user.id
  · subst id
    rw [if_pos rfl, Finmap.lookup_insert]
  · rw [if_neg same, Finmap.lookup_insert_of_ne _ same, lookup_directory]

theorem directory_erase (store : Store) (removed : Uuid) :
    (store.erase removed).directory = store.directory.erase removed := by
  apply Finmap.ext_lookup
  intro id
  rw [lookup_directory, get?_erase]
  by_cases same : id = removed
  · subst id
    rw [if_pos rfl, Finmap.lookup_erase]
  · rw [if_neg same, Finmap.lookup_erase_ne same, lookup_directory]

theorem directory_addRole {store next : Store} {changed : Uuid} {role : String}
    {user : User} (added : store.addRole changed role = .ok next)
    (found : store.get? changed = some user) :
    next.directory = store.directory.insert changed (user.addRole role) := by
  apply Finmap.ext_lookup
  intro id
  rw [lookup_directory, get?_addRole added]
  by_cases same : id = changed
  · subst id
    rw [if_pos rfl, found, Finmap.lookup_insert, Option.map_some]
  · rw [if_neg same, Finmap.lookup_insert_of_ne _ same, lookup_directory]

/-! ## What a keyed store and its map have in common -/

theorem Keyed.directory_users {store : Store} (keyed : store.Keyed) :
    store.directory.users = store.users := by
  have entries : store.directory.entries =
      (store.entries.map fun entry => (⟨entry.1, entry.2⟩ : Σ _ : Uuid, User)) := by
    have nodup : (store.entries.map fun entry =>
        (⟨entry.1, entry.2⟩ : Σ _ : Uuid, User)).Nodup := by
      apply List.Nodup.of_map Sigma.fst
      rw [List.map_map]
      exact keyed.distinct
    rw [Multiset.Nodup.ext store.directory.nodup_entries (Multiset.coe_nodup.mpr nodup)]
    rintro ⟨id, user⟩
    rw [← Finmap.mem_lookup_iff, lookup_directory, Option.mem_def,
      get?_eq_some_iff keyed.distinct]
    simp
  rw [Directory.users, entries, Multiset.map_coe, List.map_map]
  rfl

theorem Keyed.card_directory_keys {store : Store} (keyed : store.Keyed) :
    store.directory.keys.card = store.size := by
  have keys : store.directory.keys = store.ids.toFinset := by
    ext id
    rw [Finmap.mem_keys, mem_directory_iff, contains_eq_true_iff, List.mem_toFinset]
  rw [keys, List.toFinset_card_of_nodup keyed.distinct]
  exact List.length_map Prod.fst

theorem Keyed.directory_places {store : Store} (keyed : store.Keyed)
    (condition : User → Bool) :
    store.directory.places condition =
      (store.listing condition).map User.place := by
  rw [Directory.places, keyed.directory_users, Multiset.filter_coe,
    Multiset.map_coe, Multiset.coe_sort]
  simp only [Bool.decide_eq_true]
  refine (List.map_mergeSort ?_).symm
  intro left _ right _
  rw [Bool.eq_iff_iff, User.listedBefore_iff, decide_eq_true_iff]

theorem Keyed.directory_listing {store : Store} (keyed : store.Keyed)
    (condition : User → Bool) :
    store.directory.listing condition = store.listing condition := by
  rw [Directory.listing, keyed.directory_places, List.filterMap_map]
  calc
    _ = (store.listing condition).filterMap some := by
      refine List.filterMap_congr ?_
      intro user listed
      exact (store.lookup_directory user.id).trans
        (keyed.get?_of_mem_users (mem_listing_iff.mp listed).1)
    _ = store.listing condition := List.filterMap_some

/-! ## Operations on a store and on its map -/

theorem isEmpty_eq_decide (store : Store) :
    store.isEmpty = decide (store.size = 0) := by
  rw [Bool.eq_iff_iff, decide_eq_true_iff, isEmpty, List.isEmpty_iff, size,
    List.length_eq_zero_iff]

theorem size_eq_length_all (store : Store) : store.size = store.all.length := by
  rw [store.all_perm.length_eq]
  exact (List.length_map Prod.snd).symm

/-- A keyed store carries out an operation as its map does: the answers are the
same, and so are the maps afterwards. -/
theorem Keyed.directory_perform {store : Store} (keyed : store.Keyed)
    (operation : Operation) :
    store.directory.perform operation =
      ((store.perform operation).1.directory, (store.perform operation).2) := by
  cases operation with
  | insert user =>
      simp only [Directory.perform, Store.perform, lookup_directory]
      cases inserted : store.insert user with
      | ok next =>
          obtain ⟨free, _⟩ := insert_eq_ok_iff.mp inserted
          simp [free, directory_insert inserted]
      | error cause =>
          obtain ⟨taken, rfl⟩ := insert_eq_error_iff.mp inserted
          obtain ⟨present, found⟩ := Option.isSome_iff_exists.mp taken
          simp [found]
  | addRole id role =>
      simp only [Directory.perform, Store.perform, lookup_directory]
      cases added : store.addRole id role with
      | ok next =>
          obtain ⟨taken, _⟩ := addRole_eq_ok_iff.mp added
          obtain ⟨user, found⟩ := Option.isSome_iff_exists.mp taken
          rw [found, directory_addRole added found]
          rfl
      | error cause =>
          obtain ⟨free, rfl⟩ := addRole_eq_error_iff.mp added
          simp [free]
  | isAdmin id =>
      simp only [Directory.perform, Store.perform, lookup_directory, isAdmin]
      cases store.get? id with
      | none => rfl
      | some user => rfl
  | get id => simp [Directory.perform, Store.perform]
  | contains id => simp [Directory.perform, Store.perform]
  | remove id => simp [Directory.perform, Store.perform, directory_erase]
  | clear => simp [Directory.perform, Store.perform]
  | findByUsername username =>
      simp [Directory.perform, Store.perform, keyed.directory_listing, findByUsername]
  | admins =>
      simp only [Directory.perform, Store.perform, keyed.directory_listing, admins]
      rfl
  | all => simp [Directory.perform, Store.perform, keyed.directory_listing, all]
  | size => simp [Directory.perform, Store.perform, keyed.card_directory_keys]
  | isEmpty =>
      simp [Directory.perform, Store.perform, keyed.card_directory_keys,
        isEmpty_eq_decide]

theorem Keyed.directory_perm {store arranged : Store} (keyed : store.Keyed)
    (rearranged : arranged.entries.Perm store.entries) :
    arranged.directory = store.directory := by
  apply Finmap.ext_lookup
  intro id
  apply Option.ext
  intro user
  rw [lookup_directory, lookup_directory, get?_eq_some_iff keyed.distinct,
    get?_eq_some_iff (keyed.perm rearranged).distinct, rearranged.mem_iff]

/-! ## Histories under any enumeration -/

/-- How a table enumerates its entries: at every moment in an order of its own. -/
structure Enumeration where
  arrange : Nat → List (Uuid × User) → List (Uuid × User)
  arrange_perm : ∀ moment entries, (arrange moment entries).Perm entries

/-- Carries out operations in turn.  Each finds the entries in the order in which
the table enumerates them at its moment. -/
def performArranged (enumeration : Enumeration) (moment : Nat) (store : Store) :
    List Operation → Store × List (Except StoreError Answer)
  | [] => (store, [])
  | operation :: operations =>
    let arranged : Store := { store with entries := enumeration.arrange moment store.entries }
    let (next, answer) := arranged.perform operation
    let (last, answers) :=
      next.performArranged enumeration (moment + 1) operations
    (last, answer :: answers)

/-- The enumeration that leaves the entries in the order of their insertion. -/
def Enumeration.asInserted : Enumeration where
  arrange _ entries := entries
  arrange_perm _ _ := .rfl

theorem performArranged_asInserted (moment : Nat) (store : Store)
    (operations : List Operation) :
    store.performArranged .asInserted moment operations =
      store.performAll operations := by
  induction operations generalizing moment store with
  | nil => rfl
  | cons operation operations induction =>
      simp only [performArranged, performAll, induction]
      rfl

theorem Keyed.answers_performArranged {store : Store} (keyed : store.Keyed)
    (enumeration : Enumeration) (moment : Nat) (operations : List Operation) :
    (store.performArranged enumeration moment operations).2 =
      (store.directory.performAll operations).2 := by
  induction operations generalizing moment store with
  | nil => rfl
  | cons operation operations induction =>
      let arranged : Store := { store with entries := enumeration.arrange moment store.entries }
      have rearranged : arranged.entries.Perm store.entries :=
        enumeration.arrange_perm moment store.entries
      have arrangedKeyed : arranged.Keyed := keyed.perm rearranged
      have sameMap : store.directory = arranged.directory :=
        (keyed.directory_perm rearranged).symm
      have tail := induction (arrangedKeyed.perform operation) (moment + 1)
      simp only [performArranged, Directory.performAll, sameMap,
        arrangedKeyed.directory_perform operation]
      rw [tail]

/-- Every history of a store, whatever its capacity, answers as the finite map does, in
whatever order the table enumerates its entries while it lasts, and the store counts what
it lists. -/
theorem answers_eq_directory (capacity : Nat) (operations : List Operation) :
    let made := withCapacity capacity
    (∀ enumeration : Enumeration,
      (made.performArranged enumeration 0 operations).2 =
        (Directory.performAll ∅ operations).2) ∧
      (made.performAll operations).2 = (Directory.performAll ∅ operations).2 ∧
      (made.performAll operations).1.size = (made.performAll operations).1.all.length ∧
      ((made.performAll operations).1.isEmpty = true ↔
        (made.performAll operations).1.size = 0) := by
  intro made
  have arranged (enumeration : Enumeration) :
      (made.performArranged enumeration 0 operations).2 =
        (Directory.performAll ∅ operations).2 := by
    rw [(keyed_withCapacity capacity).answers_performArranged, directory_withCapacity]
  refine ⟨arranged, ?_, size_eq_length_all _, ?_⟩
  · rw [← performArranged_asInserted 0]
    exact arranged .asInserted
  · rw [isEmpty_eq_decide, decide_eq_true_iff]

end Store

end UserRegistry
