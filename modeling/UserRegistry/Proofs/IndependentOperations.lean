import UserRegistry.Proofs.Directory
import UserRegistry.Proofs.SessionSoundness
import UserRegistry.Proofs.StoredUsers

/-!
# Operations in any order

An operation on one user reads and writes nothing but the entry of its identifier, so
that operations on different users can change places.  Roles may be given in any order,
to whatever users: only the order of the roles inside a user then differs, and nothing
that the store is asked for shows it.
-/

namespace UserRegistry

namespace Store

/-! ## Operations on one user -/

namespace Operation

/-- The identifier of the user that an operation is about, if it is about one. -/
def subject? : Operation → Option Uuid
  | .insert user => some user.id
  | .get id => some id
  | .contains id => some id
  | .addRole id _ => some id
  | .isAdmin id => some id
  | .remove id => some id
  | _ => none

/-- What an operation on one user makes of the user that is filed, if there is one, and
what it answers. -/
def onEntry : Operation → Option User → Option User × Except StoreError Answer
  | .insert user, none => (some user, .ok (.id user.id))
  | .insert user, some held => (some held, .error (.duplicateUser user.id))
  | .get _, held? => (held?, .ok (.user held?))
  | .contains _, held? => (held?, .ok (.flag held?.isSome))
  | .addRole id _, none => (none, .error (.userNotFound id))
  | .addRole _ role, some held => (some (held.addRole role), .ok .done)
  | .isAdmin id, none => (none, .error (.userNotFound id))
  | .isAdmin _, some held => (some held, .ok (.flag held.isAdmin))
  | .remove _, held? => (none, .ok (.user held?))
  | _, held? => (held?, .ok .done)

end Operation

variable {store : Store} {operation : Operation} {id : Uuid}

/-- An operation on one user answers from its entry and changes no other. -/
theorem perform_eq_onEntry (store : Store) (subject : operation.subject? = some id) :
    (store.perform operation).2 = (operation.onEntry (store.get? id)).2 ∧
      ∀ sought, (store.perform operation).1.get? sought =
        if sought = id then (operation.onEntry (store.get? id)).1
        else store.get? sought := by
  have unchanged (sought : Uuid) :
      store.get? sought = if sought = id then store.get? id else store.get? sought := by
    split
    · subst id
      rfl
    · rfl
  cases operation with
  | insert user =>
      cases subject
      rw [perform]
      cases inserted : store.insert user with
      | ok next =>
          obtain ⟨free, _⟩ := insert_eq_ok_iff.mp inserted
          rw [free]
          exact ⟨rfl, get?_insert inserted⟩
      | error cause =>
          obtain ⟨taken, rfl⟩ := insert_eq_error_iff.mp inserted
          obtain ⟨held, found⟩ := Option.isSome_iff_exists.mp taken
          rw [found] at unchanged ⊢
          exact ⟨rfl, unchanged⟩
  | addRole changed role =>
      cases subject
      rw [perform]
      cases added : store.addRole id role with
      | ok next =>
          obtain ⟨taken, _⟩ := addRole_eq_ok_iff.mp added
          obtain ⟨held, found⟩ := Option.isSome_iff_exists.mp taken
          constructor
          · rw [found]
            rfl
          · intro sought
            refine (get?_addRole added sought).trans ?_
            split
            · subst sought
              rw [found]
              rfl
            · rfl
      | error cause =>
          obtain ⟨free, rfl⟩ := addRole_eq_error_iff.mp added
          rw [free] at unchanged ⊢
          exact ⟨rfl, unchanged⟩
  | isAdmin asked =>
      cases subject
      rw [perform, isAdmin]
      cases found : store.get? id with
      | none =>
          rw [found] at unchanged
          exact ⟨rfl, unchanged⟩
      | some held =>
          rw [found] at unchanged
          exact ⟨rfl, unchanged⟩
  | get asked =>
      cases subject
      exact ⟨rfl, unchanged⟩
  | contains asked =>
      cases subject
      exact ⟨rfl, unchanged⟩
  | remove removed =>
      cases subject
      exact ⟨rfl, store.get?_erase id⟩
  | findByUsername => contradiction
  | admins => contradiction
  | all => contradiction
  | clear => contradiction
  | size => contradiction
  | isEmpty => contradiction

theorem get?_perform_of_ne (subject : operation.subject? = some id) {sought : Uuid}
    (different : sought ≠ id) :
    (store.perform operation).1.get? sought = store.get? sought := by
  rw [(perform_eq_onEntry store subject).2, if_neg different]

/-- Operations on different users give each other nothing to read. -/
theorem performAll_swap (store : Store) {first second : Operation} {other : Uuid}
    (firstSubject : first.subject? = some id) (secondSubject : second.subject? = some other)
    (different : id ≠ other) :
    (store.performAll [second, first]).2 = (store.performAll [first, second]).2.reverse ∧
      ∀ sought, (store.performAll [second, first]).1.get? sought =
        (store.performAll [first, second]).1.get? sought := by
  let afterFirst := (store.perform first).1
  let afterSecond := (store.perform second).1
  have firstEntry : afterSecond.get? id = store.get? id :=
    get?_perform_of_ne secondSubject different
  have secondEntry : afterFirst.get? other = store.get? other :=
    get?_perform_of_ne firstSubject different.symm
  obtain ⟨firstAnswer, firstFound⟩ := perform_eq_onEntry store firstSubject
  obtain ⟨secondAnswer, secondFound⟩ := perform_eq_onEntry store secondSubject
  obtain ⟨laterAnswer, laterFound⟩ := perform_eq_onEntry afterSecond firstSubject
  obtain ⟨lastAnswer, lastFound⟩ := perform_eq_onEntry afterFirst secondSubject
  rw [firstEntry] at laterAnswer laterFound
  rw [secondEntry] at lastAnswer lastFound
  constructor
  · change [(store.perform second).2, (afterSecond.perform first).2] =
      [(afterFirst.perform second).2, (store.perform first).2]
    rw [laterAnswer, lastAnswer, firstAnswer, secondAnswer]
  · intro sought
    change (afterSecond.perform first).1.get? sought = (afterFirst.perform second).1.get? sought
    rw [laterFound, lastFound, firstFound, secondFound]
    by_cases isFirst : sought = id
    · have notSecond : sought ≠ other := isFirst ▸ different
      rw [if_pos isFirst, if_neg notSecond, if_pos isFirst]
    · rw [if_neg isFirst, if_neg isFirst]

/-! ## Equal tables -/

theorem Keyed.entries_perm {left right : Store} (leftKeyed : left.Keyed)
    (rightKeyed : right.Keyed) (same : ∀ id, left.get? id = right.get? id) :
    left.entries.Perm right.entries := by
  have leftNodup : left.entries.Nodup := .of_map Prod.fst leftKeyed.distinct
  have rightNodup : right.entries.Nodup := .of_map Prod.fst rightKeyed.distinct
  refine (List.perm_ext_iff_of_nodup leftNodup rightNodup).mpr ?_
  rintro ⟨id, user⟩
  rw [← get?_eq_some_iff leftKeyed.distinct, ← get?_eq_some_iff rightKeyed.distinct, same]

theorem Keyed.answers_performAll (keyed : store.Keyed) (operations : List Operation) :
    (store.performAll operations).2 = (store.directory.performAll operations).2 := by
  rw [← performArranged_asInserted 0]
  exact keyed.answers_performArranged .asInserted 0 operations

theorem Keyed.answers_of_perm {arranged : Store} (keyed : store.Keyed)
    (rearranged : arranged.entries.Perm store.entries) (operations : List Operation) :
    (arranged.performAll operations).2 = (store.performAll operations).2 := by
  rw [(keyed.perm rearranged).answers_performAll, keyed.answers_performAll,
    keyed.directory_perm rearranged]

end Store

/-! ## Users up to the order of their roles -/

/-- Two users that differ in nothing but the order of their roles. -/
structure User.Resembles (left right : User) : Prop where
  rest : right = { left with roles := right.roles }
  roles : right.roles.Perm left.roles

namespace User.Resembles

variable {left right : User}

theorem symm (alike : left.Resembles right) : right.Resembles left where
  rest := by rw [alike.rest]
  roles := alike.roles.symm

theorem place_eq (alike : left.Resembles right) : right.place = left.place := by
  rw [alike.rest]
  rfl

theorem username_eq (alike : left.Resembles right) : right.username = left.username := by
  rw [alike.rest]

theorem hasRole_eq (alike : left.Resembles right) (role : String) :
    right.hasRole role = left.hasRole role :=
  decide_eq_decide.mpr alike.roles.mem_iff

theorem isAdmin_eq (alike : left.Resembles right) : right.isAdmin = left.isAdmin :=
  alike.hasRole_eq adminRole

end User.Resembles

theorem Roles.foldl_add_perm {added others : List String} (permuted : others.Perm added)
    (roles : List String) : (others.foldl add roles).Perm (added.foldl add roles) := by
  have first : (others.eraseDups).Perm added.eraseDups := by
    rw [← ofList_eq_eraseDups, ← ofList_eq_eraseDups]
    refine (List.perm_ext_iff_of_nodup (nodup_ofList _) (nodup_ofList _)).mpr ?_
    intro role
    rw [mem_ofList_iff, mem_ofList_iff, permuted.mem_iff]
  rw [foldl_add, foldl_add]
  exact (first.filter _).append_left roles

theorem User.addRoles_resembles (user : User) {given others : List String}
    (permuted : others.Perm given) : (user.addRoles given).Resembles (user.addRoles others) := by
  rw [addRoles_eq_foldl, addRoles_eq_foldl]
  exact ⟨rfl, Roles.foldl_add_perm permuted user.roles⟩

namespace Store

/-- Two stores that hold the same identifiers, and under each the same user up to the
order of its roles. -/
def Resembles (left right : Store) : Prop :=
  ∀ id, Option.Rel User.Resembles (left.get? id) (right.get? id)

namespace Resembles

variable {left right : Store}

theorem symm (alike : left.Resembles right) : right.Resembles left := by
  intro id
  have entries := alike id
  generalize left.get? id = leftHeld, right.get? id = rightHeld at entries ⊢
  cases entries with
  | none => exact .none
  | some users => exact .some users.symm

/-- What is asked of a single user and does not tell apart users that resemble each
other does not tell the stores apart. -/
theorem map_get?_eq {Observed : Type} (alike : left.Resembles right)
    {observe : User → Observed}
    (respects : ∀ {left right : User}, left.Resembles right → observe right = observe left)
    (id : Uuid) : (right.get? id).map observe = (left.get? id).map observe := by
  have entries := alike id
  generalize left.get? id = leftHeld, right.get? id = rightHeld at entries ⊢
  cases entries with
  | none => rfl
  | some users => exact congrArg some (respects users)

theorem isAdmin_eq (alike : left.Resembles right) (id : Uuid) :
    right.isAdmin id = left.isAdmin id := by
  have answered (store : Store) : store.isAdmin id =
      ((store.get? id).map User.isAdmin).elim (.error (.userNotFound id)) .ok := by
    rw [isAdmin]
    cases store.get? id <;> rfl
  rw [answered, answered, alike.map_get?_eq User.Resembles.isAdmin_eq]

theorem mem_users {user : User} (alike : left.Resembles right) (leftKeyed : left.Keyed)
    (stored : user ∈ left.users) : ∃ other ∈ right.users, user.Resembles other := by
  have entries := alike user.id
  rw [leftKeyed.get?_of_mem_users stored] at entries
  cases found : right.get? user.id with
  | none =>
      rw [found] at entries
      contradiction
  | some other =>
      rw [found] at entries
      cases entries with
      | some users =>
          exact ⟨other, List.mem_map_of_mem (mem_entries_of_get? found), users⟩

theorem mem_places (alike : left.Resembles right) (leftKeyed : left.Keyed)
    {condition : User → Bool}
    (respects : ∀ {left right : User}, left.Resembles right → condition right = condition left)
    {place : Instant ×ₗ Uuid} (listed : place ∈ (left.listing condition).map User.place) :
    place ∈ (right.listing condition).map User.place := by
  obtain ⟨user, member, rfl⟩ := List.mem_map.mp listed
  obtain ⟨stored, met⟩ := mem_listing_iff.mp member
  obtain ⟨other, otherStored, users⟩ := alike.mem_users leftKeyed stored
  have otherMet : condition other = true := (respects users).trans met
  exact List.mem_map.mpr ⟨other, mem_listing_iff.mpr ⟨otherStored, otherMet⟩, users.place_eq⟩

/-- Listings are ordered by places, which roles are no part of. -/
theorem places_eq (alike : left.Resembles right) (leftKeyed : left.Keyed)
    (rightKeyed : right.Keyed) {condition : User → Bool}
    (respects : ∀ {left right : User}, left.Resembles right → condition right = condition left) :
    (right.listing condition).map User.place = (left.listing condition).map User.place := by
  have increasing {store : Store} (keyed : store.Keyed) :
      ((store.listing condition).map User.place).Pairwise (· < ·) :=
    List.pairwise_map.mpr (keyed.listing_places_lt condition)
  apply (increasing rightKeyed).eq_of_mem_iff (increasing leftKeyed)
  intro place
  exact ⟨alike.symm.mem_places rightKeyed respects, alike.mem_places leftKeyed respects⟩

theorem listing_ids_eq (alike : left.Resembles right) (leftKeyed : left.Keyed)
    (rightKeyed : right.Keyed) {condition : User → Bool}
    (respects : ∀ {left right : User}, left.Resembles right → condition right = condition left) :
    (right.listing condition).map User.id = (left.listing condition).map User.id := by
  have ids (users : List User) :
      users.map User.id = (users.map User.place).map fun place => (ofLex place).2 := by
    rw [List.map_map]
    rfl
  rw [ids, ids, alike.places_eq leftKeyed rightKeyed respects]

theorem size_eq (alike : left.Resembles right) (leftKeyed : left.Keyed)
    (rightKeyed : right.Keyed) : right.size = left.size := by
  have ids : right.all.map User.id = left.all.map User.id :=
    alike.listing_ids_eq leftKeyed rightKeyed fun _ => rfl
  have counts := congrArg List.length ids
  rw [List.length_map, List.length_map] at counts
  rw [size_eq_length_all, size_eq_length_all]
  exact counts

end Resembles

/-! ## Roles given in turn -/

/-- The operation that gives a role to a user. -/
def Operation.give (call : Uuid × String) : Operation :=
  .addRole call.1 call.2

theorem Operation.subject?_give (call : Uuid × String) :
    (give call).subject? = some call.1 :=
  rfl

variable {store : Store}

/-- Whether a role is given is decided by the user's being there alone. -/
theorem answer_give (store : Store) (call : Uuid × String) :
    (store.perform (.give call)).2 =
      if store.contains call.1 then .ok .done else .error (.userNotFound call.1) := by
  rw [(perform_eq_onEntry store (Operation.subject?_give call)).1, contains]
  cases store.get? call.1 <;> rfl

theorem get?_perform_give (store : Store) (call : Uuid × String) (id : Uuid) :
    (store.perform (.give call)).1.get? id =
      (store.get? id).map (User.addRoles · ((Operation.give call).roleFor? id).toList) := by
  cases found : store.get? id with
  | some user => exact get?_perform_addRole found call.1 call.2
  | none =>
      rw [(perform_eq_onEntry store (Operation.subject?_give call)).2]
      split
      · subst id
        rw [found]
        rfl
      · exact found

theorem contains_perform_give (store : Store) (call : Uuid × String) (id : Uuid) :
    (store.perform (.give call)).1.contains id = store.contains id := by
  rw [contains, get?_perform_give, Option.isSome_map, contains]

theorem get?_performAll_give (store : Store) (calls : List (Uuid × String)) (id : Uuid) :
    (store.performAll (calls.map .give)).1.get? id =
      (store.get? id).map (User.addRoles · (rolesGiven id (calls.map .give))) := by
  induction calls generalizing store with
  | nil => exact Option.map_id'.symm
  | cons call calls induction =>
      have rest := induction (store.perform (.give call)).1
      rw [get?_perform_give, Option.map_map] at rest
      rw [List.map_cons, rolesGiven_cons]
      simp only [User.addRoles_append]
      exact rest

theorem answers_give (store : Store) (calls : List (Uuid × String)) :
    (store.performAll (calls.map .give)).2 =
      calls.map fun call => (store.perform (.give call)).2 := by
  induction calls generalizing store with
  | nil => rfl
  | cons call calls induction =>
      let next := (store.perform (.give call)).1
      have later (call : Uuid × String) :
          (next.perform (.give call)).2 = (store.perform (.give call)).2 := by
        rw [answer_give, answer_give, contains_perform_give]
      have rest := induction next
      simp only [later] at rest
      exact congrArg ((store.perform (.give call)).2 :: ·) rest

theorem Sound.performAll_give (sound : store.Sound) (calls : List (Uuid × String)) :
    (store.performAll (calls.map .give)).1.Sound := by
  apply sound.performAll
  intro operation member user filed
  obtain ⟨call, _, rfl⟩ := List.mem_map.mp member
  contradiction

theorem performAll_give_resembles (store : Store) {calls permuted : List (Uuid × String)}
    (rearranged : permuted.Perm calls) :
    (store.performAll (calls.map .give)).1.Resembles
      (store.performAll (permuted.map .give)).1 := by
  intro id
  have given : (rolesGiven id (permuted.map .give)).Perm (rolesGiven id (calls.map .give)) :=
    (rearranged.map _).filterMap _
  rw [get?_performAll_give, get?_performAll_give]
  cases store.get? id with
  | none => exact .none
  | some user => exact .some (user.addRoles_resembles given)

/-! ## The outcome -/

/-- Operations on different users answer the same in either order and leave the same
store, whatever is asked of it afterwards.  Roles given in any order leave each call
with its answer and each user with the same roles, none twice, perhaps in another
order; who has a role, who is an administrator, how many users there are and whom the
listings give in which order does not depend on it. -/
theorem outcome_in_any_order {store : Store} (sound : store.Sound) :
    (∀ (first second : Operation) (id other : Uuid),
      first.subject? = some id → second.subject? = some other → id ≠ other →
      let one := store.performAll [first, second]
      let two := store.performAll [second, first]
      two.2 = one.2.reverse ∧ two.1.entries.Perm one.1.entries ∧
        ∀ later, (two.1.performAll later).2 = (one.1.performAll later).2) ∧
      ∀ calls permuted : List (Uuid × String), permuted.Perm calls →
        let one := store.performAll (calls.map .give)
        let two := store.performAll (permuted.map .give)
        (one.2 = calls.map fun call => (store.perform (.give call)).2) ∧
        (two.2 = permuted.map fun call => (store.perform (.give call)).2) ∧
        one.1.Resembles two.1 ∧
        (∀ id user, one.1.get? id = some user ∨ two.1.get? id = some user →
          user.roles.Nodup) ∧
        (∀ id role, (two.1.get? id).map (User.hasRole · role) =
          (one.1.get? id).map (User.hasRole · role)) ∧
        (∀ id, two.1.isAdmin id = one.1.isAdmin id) ∧
        two.1.size = one.1.size ∧
        two.1.all.map User.id = one.1.all.map User.id ∧
        two.1.admins.map User.id = one.1.admins.map User.id ∧
        ∀ username, (two.1.findByUsername username).map User.id =
          (one.1.findByUsername username).map User.id := by
  constructor
  · intro first second id other firstSubject secondSubject different one two
    have oneKeyed : one.1.Keyed := (sound.reachable.performAll _).keyed
    have twoKeyed : two.1.Keyed := (sound.reachable.performAll _).keyed
    obtain ⟨answers, found⟩ :=
      performAll_swap store firstSubject secondSubject different
    have rearranged : two.1.entries.Perm one.1.entries := twoKeyed.entries_perm oneKeyed found
    exact ⟨answers, rearranged, oneKeyed.answers_of_perm rearranged⟩
  · intro calls permuted rearranged one two
    have oneSound : one.1.Sound := sound.performAll_give calls
    have twoSound : two.1.Sound := sound.performAll_give permuted
    have oneKeyed := oneSound.reachable.keyed
    have twoKeyed := twoSound.reachable.keyed
    have alike : one.1.Resembles two.1 := store.performAll_give_resembles rearranged
    have stored {held : Store} {id : Uuid} {user : User} (found : held.get? id = some user) :
        user ∈ held.users :=
      List.mem_map_of_mem (mem_entries_of_get? found)
    refine ⟨store.answers_give calls, store.answers_give permuted, alike, ?_, ?_,
      alike.isAdmin_eq, alike.size_eq oneKeyed twoKeyed, ?_, ?_, ?_⟩
    · intro id user found
      rcases found with inOne | inTwo
      · exact oneSound.roles_nodup user (stored inOne)
      · exact twoSound.roles_nodup user (stored inTwo)
    · intro id role
      exact alike.map_get?_eq (fun users => users.hasRole_eq role) id
    · exact alike.listing_ids_eq oneKeyed twoKeyed fun _ => rfl
    · exact alike.listing_ids_eq oneKeyed twoKeyed User.Resembles.isAdmin_eq
    · intro username
      apply alike.listing_ids_eq oneKeyed twoKeyed
      intro left right users
      rw [users.username_eq]

/-- A removal and a role for somebody else change places; and roles, some of them for
nobody or held already, are given from the last to the first. -/
theorem outcome_in_reverse_order :
    let ann : User := ⟨.random 1, "ann", "a@x", ⟨5, 0⟩, ["viewer"], []⟩
    let bob : User := ⟨.random 2, "bob", "b@x", ⟨5, 0⟩, [], []⟩
    let store := (empty.performAll [.insert ann, .insert bob]).1
    let calls := [(ann.id, "editor"), (.random 3, "admin"), (bob.id, "admin"),
      (ann.id, "admin"), (ann.id, "viewer")]
    let one := store.performAll (calls.map .give)
    let two := store.performAll (calls.reverse.map .give)
    (store.performAll [.addRole bob.id "owner", .remove ann.id]).2 =
        (store.performAll [.remove ann.id, .addRole bob.id "owner"]).2.reverse ∧
      (one.1.get? ann.id).map User.roles = some ["viewer", "editor", "admin"] ∧
      (two.1.get? ann.id).map User.roles = some ["viewer", "admin", "editor"] ∧
      one.1.Resembles two.1 ∧
      two.1.admins.map User.id = one.1.admins.map User.id := by
  intro ann bob store calls one two
  have sound : store.Sound := by
    apply (sound_withCapacity 0).performAll
    intro operation member user filed
    rcases List.mem_pair.mp member with rfl | rfl
    · cases filed
      exact List.nodup_singleton _
    · cases filed
      exact List.nodup_nil
  have different : ann.id ≠ bob.id := by decide
  obtain ⟨swapped, permuted⟩ := outcome_in_any_order sound
  obtain ⟨answers, _, _⟩ :=
    swapped (.remove ann.id) (.addRole bob.id "owner") ann.id bob.id rfl rfl different
  obtain ⟨_, _, alike, _, _, _, _, _, admins, _⟩ :=
    permuted calls calls.reverse calls.reverse_perm
  exact ⟨answers, rfl, rfl, alike, admins⟩

end Store

end UserRegistry
