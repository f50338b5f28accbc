import UserRegistry.Proofs.StoredUsers

/-!
# Roles that were given

The roles of a user are told by the roles it was ever given, at its creation and later:
each counts where it was given first.  It makes no difference which of them were given
at the creation.
-/

namespace UserRegistry

namespace User

variable {user : User} {id : Uuid} {createdAt : Instant} {username email : String}
  {roles : Option (List String)}

theorem addRoles_create (later : List String) :
    (create id createdAt username email roles).addRoles later =
      create id createdAt username email (some (roles.getD [] ++ later)) := by
  rw [addRoles_eq_foldl, create, create, Roles.ofList, Roles.ofList, Option.getD_some,
    List.foldl_append]

theorem addRoles_of_held {again : List String} (held : again ⊆ user.roles) :
    user.addRoles again = user := by
  induction again with
  | nil => rfl
  | cons role again induction =>
      obtain ⟨first, others⟩ := List.cons_subset.mp held
      have unchanged : user.addRole role = user := by
        rw [addRole, Roles.add, if_pos first]
      rw [addRoles, List.foldl_cons, unchanged]
      exact induction others

theorem hasRole_eq_true_iff {role : String} : user.hasRole role = true ↔ role ∈ user.roles :=
  decide_eq_true_iff

/-- Whatever roles a user is created with and given later, it has each of them once, in
the order in which they were first given, as if all had been given at its creation.
What it has already changes nothing when it is given again.  It is an administrator
when the role `admin` is one of them. -/
theorem roles_of_given (id : Uuid) (createdAt : Instant) (username email : String)
    (roles : Option (List String)) (later : List String) :
    let given := roles.getD [] ++ later
    let user := (create id createdAt username email roles).addRoles later
    user.roles = given.eraseDups ∧
      user.roles.Nodup ∧
      user.roles.Sublist given ∧
      (∀ role, role ∈ user.roles ↔ role ∈ given) ∧
      (user.roles.Pairwise fun earlier later => given.idxOf earlier < given.idxOf later) ∧
      user = create id createdAt username email (some given) ∧
      (∀ again, again ⊆ user.roles → user.addRoles again = user) ∧
      (∀ role, user.hasRole role = true ↔ role ∈ given) ∧
      (user.isAdmin = true ↔ "admin" ∈ given) := by
  intro given user
  have atOnce : user = create id createdAt username email (some given) :=
    addRoles_create later
  have kept : user.roles = Roles.ofList given := congrArg User.roles atOnce
  have has (role : String) : user.hasRole role = true ↔ role ∈ given := by
    rw [hasRole_eq_true_iff, kept, Roles.mem_ofList_iff]
  refine ⟨?_, ?_, ?_, ?_, ?_, atOnce, ?_, has, has adminRole⟩
  · rw [kept, Roles.ofList_eq_eraseDups]
  · rw [kept]
    exact Roles.nodup_ofList given
  · rw [kept]
    exact Roles.ofList_sublist given
  · intro role
    rw [kept, Roles.mem_ofList_iff]
  · rw [kept]
    exact Roles.pairwise_idxOf_ofList given
  · intro again held
    exact addRoles_of_held held

/-- Roles repeated at the creation, among the later ones and between the two. -/
theorem roles_of_given_repeatedly :
    let user := (create (.random 1) ⟨0, 0⟩ "ann" "a@x" (some ["viewer", "editor", "viewer"])).addRoles
      ["admin", "editor", "owner", "admin"]
    user.roles = ["viewer", "editor", "admin", "owner"] ∧
      user.addRoles ["owner", "viewer", "owner"] = user ∧ user.isAdmin = true := by
  intro user
  obtain ⟨roles, _, _, _, _, _, again, _, admin⟩ :=
    roles_of_given (.random 1) ⟨0, 0⟩ "ann" "a@x" (some ["viewer", "editor", "viewer"])
      ["admin", "editor", "owner", "admin"]
  exact ⟨roles, again _ (by decide), admin.mpr (by decide)⟩

end User

end UserRegistry
