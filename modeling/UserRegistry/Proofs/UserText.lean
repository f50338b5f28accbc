import UserRegistry.Proofs.IdentifierText
import UserRegistry.Proofs.InstantText
import UserRegistry.Proofs.JsonText
import UserRegistry.User

/-!
# Printed users read back

The text of a user, and the text of a list of users, is read as the objects that were
printed.  Since identifiers and instants can be told by their texts, a user's text
determines the user.
-/

namespace UserRegistry

namespace Json

theorem everywhereItems_of_forall {condition : Json → Prop} {items : List Json}
    (holds : ∀ item ∈ items, item.Everywhere condition) :
    EverywhereItems condition items := by
  induction items with
  | nil => trivial
  | cons item items induction =>
      refine ⟨holds item List.mem_cons_self, induction ?_⟩
      intro other inside
      exact holds other (List.mem_cons_of_mem _ inside)

end Json

namespace User

theorem exact_toJson {user : User}
    (exact : Json.EverywhereMembers Json.Exact user.metadata) :
    user.toJson.Everywhere Json.Exact := by
  have roles : Json.EverywhereItems Json.Exact (user.roles.map .string) := by
    apply Json.everywhereItems_of_forall
    intro item inside
    obtain ⟨role, _, rfl⟩ := List.mem_map.mp inside
    trivial
  exact ⟨trivial, trivial, trivial, trivial, trivial, ⟨trivial, roles⟩,
    ⟨trivial, exact⟩, trivial⟩

theorem parse?_json {user : User}
    (exact : Json.EverywhereMembers Json.Exact user.metadata) :
    Json.parse? user.json = some user.toJson :=
  Json.parse?_written (exact_toJson exact) .compact

theorem exact_array_toJson {users : List User}
    (exact : ∀ user ∈ users, Json.EverywhereMembers Json.Exact user.metadata) :
    (Json.array (users.map toJson)).Everywhere Json.Exact := by
  refine ⟨trivial, Json.everywhereItems_of_forall fun item inside => ?_⟩
  obtain ⟨user, member, rfl⟩ := List.mem_map.mp inside
  exact exact_toJson (exact user member)

theorem parse?_prettyList {users : List User}
    (exact : ∀ user ∈ users, Json.EverywhereMembers Json.Exact user.metadata) :
    Json.parse? (prettyList users) = some (.array (users.map toJson)) :=
  Json.parse?_written (exact_array_toJson exact) .pretty

/-- Users made from 1970 on can be told apart by the objects that they print. -/
theorem eq_of_toJson_eq {left right : User} (leftLate : left.createdAt.FromEpoch)
    (rightLate : right.createdAt.FromEpoch) (equality : left.toJson = right.toJson) :
    left = right := by
  simp only [toJson, Json.object.injEq, List.cons.injEq, Prod.mk.injEq,
    Json.string.injEq, Json.array.injEq, true_and, and_true] at equality
  obtain ⟨idTexts, usernames, emails, times, roleItems, metadata⟩ := equality
  have ids : left.id = right.id := Uuid.text_injective idTexts
  have instants : left.createdAt = right.createdAt :=
    Instant.eq_of_text_eq leftLate rightLate times
  have roles : left.roles = right.roles :=
    List.map_injective_iff.mpr (fun _ _ same => Json.string.inj same) roleItems
  cases left
  cases right
  simp_all

/-- Texts of users read back: one user's as the object of its six fields, a list's as
the array of its users' objects, and users made from 1970 on that print the same
text are the same. -/
theorem texts_read_back :
    (∀ user : User, Json.EverywhereMembers Json.Exact user.metadata →
      Json.parse? user.json =
        some (.object
          [ ("id", .string user.id.text),
            ("username", .string user.username),
            ("email", .string user.email),
            ("created_at", .string user.createdAt.text),
            ("roles", .array (user.roles.map .string)),
            ("metadata", .object user.metadata) ])) ∧
      (∀ users : List User,
        (∀ user ∈ users, Json.EverywhereMembers Json.Exact user.metadata) →
          Json.parse? (prettyList users) = some (.array (users.map toJson)) ∧
            ∀ user ∈ users, Json.parse? user.json = some user.toJson) ∧
      ∀ left right : User,
        Json.EverywhereMembers Json.Exact left.metadata →
          Json.EverywhereMembers Json.Exact right.metadata →
            left.createdAt.FromEpoch → right.createdAt.FromEpoch →
              left.json = right.json → left = right := by
  refine ⟨?_, ?_, ?_⟩
  · intro user exact
    exact parse?_json exact
  · intro users exact
    exact ⟨parse?_prettyList exact, fun user member => parse?_json (exact user member)⟩
  · intro left right leftExact rightExact leftLate rightLate texts
    have read : some left.toJson = some right.toJson := by
      rw [← parse?_json leftExact, texts, parse?_json rightExact]
    exact eq_of_toJson_eq leftLate rightLate (Option.some.inj read)

/-- Two users that differ only in a nested number print different texts, and the list of
both reads back. -/
theorem texts_read_back_of_nested_metadata :
    let limits (low : Int) : Json.Members :=
      [ ("", .array [.null, .object [], .array [], .boolean true]),
        ("\x00\x7f", .object [("high", .integer 18446744073709551615),
          ("low", .integer low)]) ]
    let user (low : Int) : User :=
      { id := ⟨5⟩, username := "ann \"\\\n", email := "änn@例", createdAt := ⟨1704067200, 100000⟩
        roles := ["admin", "x\t"], metadata := limits low }
    let first := user (-9223372036854775808)
    let second := user (-9223372036854775807)
    (∀ user ∈ [first, second], Json.EverywhereMembers Json.Exact user.metadata) ∧
      (∀ user ∈ [first, second], user.createdAt.FromEpoch) ∧
        Json.parse? (prettyList [first, second]) =
            some (.array [first.toJson, second.toJson]) ∧
          first.json ≠ second.json := by
  intro limits user first second
  have exact : ∀ user ∈ [first, second],
      Json.EverywhereMembers Json.Exact user.metadata := by
    simp [first, second, user, limits, Json.EverywhereMembers, Json.EverywhereItems,
      Json.Everywhere, Json.Exact]
  have late : ∀ user ∈ [first, second], user.createdAt.FromEpoch := by
    simp [first, second, user, Instant.FromEpoch]
  refine ⟨exact, late, (texts_read_back.2.1 [first, second] exact).1, ?_⟩
  intro texts
  have same : first = second :=
    texts_read_back.2.2 first second (exact first (by simp)) (exact second (by simp))
      (late first (by simp)) (late second (by simp)) texts
  simp [first, second, user, limits] at same

end User

end UserRegistry
