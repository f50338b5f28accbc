import Mathlib.Data.Prod.Lex
import UserRegistry.Store

/-!
# Seniority of users

The listings compare users by creation time and then by identifier.  Instants and
identifiers are given linear orders of their own here, so that the comparison of
the listings is the order of a single key, the place of a user.  That it is
transitive and total is then a fact about linear orders, and that ties are
impossible is a fact about identifiers alone.
-/

namespace UserRegistry

namespace Uuid

theorem toNat_bits_injective :
    Function.Injective fun id : Uuid => id.bits.toNat := by
  intro left right equality
  cases left
  cases right
  exact congrArg Uuid.mk (BitVec.eq_of_toNat_eq equality)

/-- Identifiers in the order of their numbers. -/
instance : LinearOrder Uuid :=
  LinearOrder.lift' (fun id => id.bits.toNat) toNat_bits_injective

theorem le_eq_true_iff {left right : Uuid} :
    left.le right = true ↔ left ≤ right :=
  decide_eq_true_iff

end Uuid

namespace Instant

/-- Seconds, and nanoseconds within the second. -/
def key (instant : Instant) : Int ×ₗ Nat :=
  toLex (instant.seconds, instant.nanoseconds)

theorem key_injective : Function.Injective key := by
  intro left right equality
  cases left
  cases right
  simpa [key] using equality

/-- Instants from the earlier to the later. -/
instance : LinearOrder Instant :=
  LinearOrder.lift' key key_injective

theorem lt_iff {left right : Instant} :
    left < right ↔
      left.seconds < right.seconds ∨
        left.seconds = right.seconds ∧ left.nanoseconds < right.nanoseconds :=
  Prod.Lex.lt_iff

end Instant

namespace User

/-- Where a user stands in the listings: its creation time and, among users of
one creation time, its identifier. -/
def place (user : User) : Instant ×ₗ Uuid :=
  toLex (user.createdAt, user.id)

theorem place_lt_iff {left right : User} :
    left.place < right.place ↔
      left.createdAt < right.createdAt ∨
        left.createdAt = right.createdAt ∧ left.id < right.id :=
  Prod.Lex.lt_iff

theorem place_le_iff {left right : User} :
    left.place ≤ right.place ↔
      left.createdAt < right.createdAt ∨
        left.createdAt = right.createdAt ∧ left.id ≤ right.id :=
  Prod.Lex.le_iff

/-- The comparison that sorts the listings is the order of places. -/
theorem listedBefore_iff {left right : User} :
    left.listedBefore right = true ↔ left.place ≤ right.place := by
  have sameInstant : left.createdAt = right.createdAt ↔
      left.createdAt.seconds = right.createdAt.seconds ∧
        left.createdAt.nanoseconds = right.createdAt.nanoseconds := by
    cases left.createdAt
    cases right.createdAt
    exact Instant.mk.injEq _ _ _ _ ▸ Iff.rfl
  rw [place_le_iff, Instant.lt_iff, sameInstant]
  unfold listedBefore
  by_cases seconds : left.createdAt.seconds = right.createdAt.seconds
  · by_cases nanoseconds :
        left.createdAt.nanoseconds = right.createdAt.nanoseconds
    · simp [seconds, nanoseconds, Uuid.le_eq_true_iff]
    · simp [seconds, nanoseconds]
  · simp [seconds]

theorem listedBefore_trans (first second third : User)
    (earlier : first.listedBefore second = true)
    (later : second.listedBefore third = true) :
    first.listedBefore third = true := by
  rw [listedBefore_iff] at earlier later ⊢
  exact earlier.trans later

theorem listedBefore_total (left right : User) :
    (left.listedBefore right || right.listedBefore left) = true := by
  rw [Bool.or_eq_true, listedBefore_iff, listedBefore_iff]
  exact le_total left.place right.place

end User

end UserRegistry
