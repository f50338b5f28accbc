import Mathlib.Data.List.Perm.Basic
import UserRegistry.Proofs.Seniority
import UserRegistry.Proofs.StoreHistory

/-!
# Listings

A listing filters the users of a store and sorts them by place.  In a keyed store
no two users share a place, so the places strictly increase and a listing is
determined by the set of its users alone: neither the order of the table nor that
of filtering and sorting can be seen in it.
-/

namespace UserRegistry

theorem User.eq_of_places_increasing {left right : List User}
    (leftIncreasing :
      left.Pairwise fun earlier later => earlier.place < later.place)
    (rightIncreasing :
      right.Pairwise fun earlier later => earlier.place < later.place)
    (sameUsers : ∀ user, user ∈ left ↔ user ∈ right) : left = right := by
  have leftNodup : left.Nodup :=
    leftIncreasing.imp fun before same => before.ne (congrArg User.place same)
  have rightNodup : right.Nodup :=
    rightIncreasing.imp fun before same => before.ne (congrArg User.place same)
  have permutation : left.Perm right :=
    (List.perm_ext_iff_of_nodup leftNodup rightNodup).mpr sameUsers
  refine permutation.eq_of_pairwise ?_ leftIncreasing rightIncreasing
  intro first second _ _ before after
  exact (lt_asymm before after).elim

namespace Store

theorem listing_perm (store : Store) (condition : User → Bool) :
    (store.listing condition).Perm (store.users.filter condition) :=
  List.mergeSort_perm _ _

theorem mem_listing_iff {store : Store} {condition : User → Bool} {user : User} :
    user ∈ store.listing condition ↔
      user ∈ store.users ∧ condition user = true := by
  rw [(store.listing_perm condition).mem_iff, List.mem_filter]

theorem all_perm (store : Store) : store.all.Perm store.users := by
  have sorted := store.listing_perm fun _ => true
  rwa [List.filter_true] at sorted

theorem mem_all_iff {store : Store} {user : User} :
    user ∈ store.all ↔ user ∈ store.users :=
  store.all_perm.mem_iff

/-- Sorting alone only gives that places do not decrease. -/
theorem listing_places_le (store : Store) (condition : User → Bool) :
    (store.listing condition).Pairwise fun earlier later =>
      earlier.place ≤ later.place := by
  have sorted := List.pairwise_mergeSort User.listedBefore_trans
    User.listedBefore_total (store.users.filter condition)
  exact sorted.imp User.listedBefore_iff.mp

/-- Places that do not decrease strictly increase in a keyed store: equal places
would mean equal identifiers. -/
theorem Keyed.listing_places_lt {store : Store} (keyed : store.Keyed)
    (condition : User → Bool) :
    (store.listing condition).Pairwise fun earlier later =>
      earlier.place < later.place := by
  have nodup : (store.listing condition).Nodup :=
    (store.listing_perm condition).nodup_iff.mpr
      (keyed.users_nodup.filter condition)
  -- membership in the listing is needed beside the order: ties are settled by it
  refine (List.Pairwise.and_mem.mp
    ((store.listing_places_le condition).and nodup)).imp ?_
  rintro earlier later ⟨earlierListed, laterListed, le, different⟩
  refine lt_of_le_of_ne le ?_
  intro samePlace
  have sameId : earlier.id = later.id :=
    congrArg (fun place : Instant ×ₗ Uuid => (ofLex place).2) samePlace
  exact different (keyed.eq_of_id_eq (mem_listing_iff.mp earlierListed).1
    (mem_listing_iff.mp laterListed).1 sameId)

theorem Keyed.listing_eq_of_same_users {left right : Store}
    (leftKeyed : left.Keyed) (rightKeyed : right.Keyed)
    (sameUsers : ∀ user, user ∈ left.users ↔ user ∈ right.users)
    (condition : User → Bool) :
    left.listing condition = right.listing condition := by
  apply User.eq_of_places_increasing
  · exact leftKeyed.listing_places_lt condition
  · exact rightKeyed.listing_places_lt condition
  · intro user
    rw [mem_listing_iff, mem_listing_iff, sameUsers user]

theorem Keyed.listing_eq_filter_all {store : Store} (keyed : store.Keyed)
    (condition : User → Bool) :
    store.listing condition = store.all.filter condition := by
  apply User.eq_of_places_increasing
  · exact keyed.listing_places_lt condition
  · exact (keyed.listing_places_lt fun _ => true).filter condition
  · intro user
    rw [mem_listing_iff, List.mem_filter, mem_all_iff]

/-- In a store that any history of operations leads to, the list of all users is
strictly increasing by creation time and then by identifier, administrators and
users of a name are its sublists, and all three listings depend on nothing but the
set of the stored users. -/
theorem listings_of_reachable {store : Store} (reachable : store.Reachable) :
    store.all.Perm store.users ∧
      (store.all.Pairwise fun earlier later =>
        earlier.createdAt < later.createdAt ∨
          earlier.createdAt = later.createdAt ∧ earlier.id < later.id) ∧
      store.admins = store.all.filter (fun user => "admin" ∈ user.roles) ∧
      (∀ username, store.findByUsername username =
        store.all.filter fun user => user.username = username) ∧
      ∀ other : Store, other.Reachable →
        (∀ user, user ∈ other.users ↔ user ∈ store.users) →
        other.all = store.all ∧ other.admins = store.admins ∧
          ∀ username, other.findByUsername username =
            store.findByUsername username := by
  have keyed := reachable.keyed
  refine ⟨store.all_perm, ?_, ?_, ?_, ?_⟩
  · exact (keyed.listing_places_lt _).imp User.place_lt_iff.mp
  · exact keyed.listing_eq_filter_all User.isAdmin
  · intro username
    exact keyed.listing_eq_filter_all fun user => user.username = username
  · intro other otherReachable sameUsers
    have same := otherReachable.keyed.listing_eq_of_same_users keyed sameUsers
    exact ⟨same _, same _, fun username => same _⟩

/-- Two histories with users of one creation time, the second with a rejected
duplicate and a user that is removed and stored again: their tables differ in order,
their listings do not. -/
theorem listings_of_two_histories :
    let ann : User := ⟨.random 1, "ann", "ann@example.com", ⟨0, 0⟩, ["admin"], []⟩
    let bob : User := ⟨.random 2, "bob", "bob@example.com", ⟨0, 0⟩, [], []⟩
    let first := (Store.empty.performAll [.insert ann, .insert bob]).1
    let second := (Store.empty.performAll
      [.insert bob, .insert ann, .insert bob, .remove ann.id, .insert ann]).1
    first.users = [ann, bob] ∧ second.users = [bob, ann] ∧
      second.all = first.all ∧ second.admins = first.admins ∧
        ∀ username, second.findByUsername username = first.findByUsername username := by
  intro ann bob first second
  have firstUsers : first.users = [ann, bob] := rfl
  have secondUsers : second.users = [bob, ann] := rfl
  have sameUsers : ∀ user, user ∈ second.users ↔ user ∈ first.users := by
    intro user
    rw [firstUsers, secondUsers]
    exact (List.Perm.swap ann bob []).mem_iff
  obtain ⟨_, _, _, _, determined⟩ :=
    listings_of_reachable ((Reachable.withCapacity 0).performAll [.insert ann, .insert bob])
  exact ⟨firstUsers, secondUsers,
    determined second ((Reachable.withCapacity 0).performAll _) sameUsers⟩

end Store

end UserRegistry
