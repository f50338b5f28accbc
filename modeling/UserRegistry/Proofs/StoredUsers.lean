import UserRegistry.Proofs.Roles
import UserRegistry.Proofs.SeedingOutcome
import UserRegistry.Store.Operation

/-!
# Users that stay stored

While no operation removes a user, everything but its roles stays as it was filed, and
its roles only grow.  What the operations do to it is told by the roles they give it,
in turn: one more role, or none.
-/

namespace UserRegistry

namespace User

/-- Gives a user roles in turn. -/
def addRoles (user : User) (roles : List String) : User :=
  roles.foldl addRole user

theorem addRoles_append (user : User) (first second : List String) :
    user.addRoles (first ++ second) = (user.addRoles first).addRoles second :=
  List.foldl_append

theorem addRoles_eq_foldl (user : User) (roles : List String) :
    user.addRoles roles = { user with roles := roles.foldl Roles.add user.roles } := by
  induction roles generalizing user with
  | nil => rfl
  | cons role roles induction => exact induction (user.addRole role)

theorem addRoles_eq (user : User) (roles : List String) :
    user.addRoles roles =
      { user with
        roles := user.roles ++ roles.eraseDups.filter fun role => role ∉ user.roles } := by
  rw [addRoles_eq_foldl, Roles.foldl_add]

end User

namespace Store

/-- The role that an operation gives to the user with an identifier, if it does. -/
def Operation.roleFor? (id : Uuid) : Operation → Option String
  | .addRole changed role => if changed = id then some role else none
  | _ => none

/-- The roles that operations give to the user with an identifier, in turn. -/
def rolesGiven (id : Uuid) (operations : List Operation) : List String :=
  operations.filterMap (Operation.roleFor? id)

theorem rolesGiven_cons (id : Uuid) (operation : Operation) (operations : List Operation) :
    rolesGiven id (operation :: operations) =
      (operation.roleFor? id).toList ++ rolesGiven id operations := by
  rw [rolesGiven, List.filterMap_cons]
  cases operation.roleFor? id <;> rfl

variable {store : Store} {id : Uuid} {user : User}

/-- An identifier that is taken is not filed again, whatever the refused user holds. -/
theorem get?_perform_insert (stored : store.get? id = some user) (inserted : User) :
    (store.perform (.insert inserted)).1.get? id = some user := by
  rw [perform]
  cases attempt : store.insert inserted with
  | error cause => exact stored
  | ok next =>
      have free : store.get? inserted.id = none :=
        (insert_eq_ok_iff.mp attempt).1
      have other : id ≠ inserted.id := by
        rintro rfl
        rw [free] at stored
        contradiction
      simp only [get?_insert attempt, if_neg other, stored]

theorem get?_perform_addRole (stored : store.get? id = some user)
    (changed : Uuid) (role : String) :
    (store.perform (.addRole changed role)).1.get? id =
      some (user.addRoles (Operation.roleFor? id (.addRole changed role)).toList) := by
  rw [perform, Operation.roleFor?]
  cases attempt : store.addRole changed role with
  | error cause =>
      have absent : store.get? changed = none :=
        (addRole_eq_error_iff.mp attempt).1
      have other : changed ≠ id := by
        rintro rfl
        rw [absent] at stored
        contradiction
      rw [if_neg other]
      exact stored
  | ok next =>
      simp only [get?_addRole attempt, stored]
      by_cases same : changed = id
      · rw [if_pos same.symm, if_pos same]
        rfl
      · rw [if_neg (Ne.symm same), if_neg same]
        rfl

/-- An operation that does not remove a stored user gives it at most a role. -/
theorem get?_perform (stored : store.get? id = some user) {operation : Operation}
    (unremoved : operation ≠ .remove id) (uncleared : operation ≠ .clear) :
    (store.perform operation).1.get? id =
      some (user.addRoles (operation.roleFor? id).toList) := by
  cases operation with
  | insert inserted => exact get?_perform_insert stored inserted
  | addRole changed role => exact get?_perform_addRole stored changed role
  | remove removed =>
      have other : id ≠ removed := by
        rintro rfl
        exact unremoved rfl
      rw [perform, get?_erase, if_neg other]
      exact stored
  | clear => exact absurd rfl uncleared
  | get => exact stored
  | contains => exact stored
  | findByUsername => exact stored
  | isAdmin => exact stored
  | admins => exact stored
  | all => exact stored
  | size => exact stored
  | isEmpty => exact stored

theorem get?_performAll (stored : store.get? id = some user)
    {operations : List Operation} (unremoved : .remove id ∉ operations)
    (uncleared : .clear ∉ operations) :
    (store.performAll operations).1.get? id =
      some (user.addRoles (rolesGiven id operations)) := by
  induction operations generalizing store user with
  | nil => exact stored
  | cons operation operations induction =>
      obtain ⟨differsRemove, restUnremoved⟩ := not_or.mp (mt List.mem_cons.mpr unremoved)
      obtain ⟨differsClear, restUncleared⟩ := not_or.mp (mt List.mem_cons.mpr uncleared)
      have first := get?_perform stored (Ne.symm differsRemove) (Ne.symm differsClear)
      have rest := induction first restUnremoved restUncleared
      rw [rolesGiven_cons, User.addRoles_append]
      exact rest

/-- A user that is neither removed nor cleared away keeps its identifier, username,
email, creation time and metadata through any operations.  Its roles stay in front, and
behind them come those that the operations give it and it did not have, each where it is
first given.  Seeding in between changes nothing of it. -/
theorem stored_user_through_operations (store : Store) (operations : List Operation)
    {id : Uuid} {user : User} (stored : store.get? id = some user) :
    ((.remove id ∉ operations) → (.clear ∉ operations) →
      ∃ last, (store.performAll operations).1.get? id = some last ∧
        last.id = user.id ∧ last.username = user.username ∧ last.email = user.email ∧
          last.createdAt = user.createdAt ∧ last.metadata = user.metadata ∧
        user.roles <+: last.roles ∧
        last.roles = user.roles ++
          (rolesGiven id operations).eraseDups.filter (fun role => role ∉ user.roles) ∧
        (user.isAdmin = true → last.isAdmin = true)) ∧
      ∀ (source : Source) (created : Nat) (seeds : List Seed),
        (store.sow source created seeds).store.get? id = some user := by
  refine ⟨?_, fun source created seeds => get?_sow stored seeds⟩
  intro unremoved uncleared
  have found := get?_performAll stored unremoved uncleared
  rw [User.addRoles_eq] at found
  refine ⟨_, found, rfl, rfl, rfl, rfl, rfl, List.prefix_append _ _, rfl, ?_⟩
  intro admin
  have held : adminRole ∈ user.roles := of_decide_eq_true admin
  exact decide_eq_true (List.mem_append_left _ held)

/-- Between filing and the end of the stretch: a duplicate with another name and other
roles, roles that are there already or given twice, a role for somebody else, and the
removal of somebody else. -/
theorem stored_user_through_refused_duplicate :
    let ann : User := ⟨.random 1, "ann", "a@x", ⟨5, 0⟩, ["viewer"], [("k", .null)]⟩
    let other : User := ⟨.random 1, "eve", "e@x", ⟨6, 0⟩, ["root"], []⟩
    let bob : User := ⟨.random 2, "bob", "b@x", ⟨7, 0⟩, [], []⟩
    let operations : List Operation :=
      [ .insert other, .insert bob, .addRole ann.id "editor", .addRole bob.id "owner",
        .addRole ann.id "viewer", .remove bob.id, .addRole ann.id "admin",
        .addRole ann.id "editor" ]
    ∃ last, ((⟨[(ann.id, ann)], 0⟩ : Store).performAll operations).1.get? ann.id = some last ∧
      last.username = "ann" ∧ last.metadata = [("k", .null)] ∧
        last.roles = ["viewer", "editor", "admin"] := by
  intro ann other bob operations
  have stored : (⟨[(ann.id, ann)], 0⟩ : Store).get? ann.id = some ann := rfl
  have different : ann.id ≠ bob.id := by decide
  have unremoved : .remove ann.id ∉ operations := by simp [operations, different]
  have uncleared : .clear ∉ operations := by simp [operations]
  obtain ⟨last, found, _, username, _, _, metadata, _, roles, _⟩ :=
    (stored_user_through_operations _ operations stored).1 unremoved uncleared
  exact ⟨last, found, username, metadata, roles⟩

end Store

end UserRegistry
