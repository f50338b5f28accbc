import UserRegistry.Proofs.InstantText
import UserRegistry.User

/-!
# Texts of creation times

What is printed of a user tells when it was created: the text denotes that instant and no
other, so that users created at different instants print different texts.
-/

namespace UserRegistry.User

theorem printed_created_at (user : User) :
    ∃ members : Json.Members, user.toJson = .object members ∧
      members.get? "created_at" = some (.string user.createdAt.text) :=
  ⟨_, rfl, rfl⟩

theorem created_at_of_printed {user : User} {members : Json.Members} {text : String}
    (printed : user.toJson = .object members)
    (bound : members.get? "created_at" = some (.string text)) :
    text = user.createdAt.text := by
  obtain ⟨held, heldPrinted, heldBound⟩ := printed_created_at user
  rw [printed] at heldPrinted
  cases heldPrinted
  rw [bound] at heldBound
  exact Json.string.inj (Option.some.inj heldBound)

/-- The text of a creation time denotes it, as a day that is counted from 1 January 1970 and
a time of that day, and denotes no other; only a user that was created then prints it. -/
theorem created_at_denotes_creation {user other : User} (late : user.createdAt.FromEpoch)
    (otherLate : other.createdAt.FromEpoch) :
    ∃ (members : Json.Members) (text : String),
      user.toJson = .object members ∧ members.get? "created_at" = some (.string text) ∧
        Instant.Spells text.toList user.createdAt ∧
        (∀ instant, Instant.Spells text.toList instant → instant = user.createdAt) ∧
        ∀ otherMembers : Json.Members, other.toJson = .object otherMembers →
          otherMembers.get? "created_at" = some (.string text) →
            other.createdAt = user.createdAt := by
  obtain ⟨members, printed, bound⟩ := printed_created_at user
  have spells := Instant.spells_written late
  rw [← Instant.text_toList] at spells
  refine ⟨members, user.createdAt.text, printed, bound, spells, ?_, ?_⟩
  · intro instant otherSpells
    exact Instant.eq_of_spells otherSpells spells
  · intro otherMembers otherPrinted otherBound
    have texts := created_at_of_printed otherPrinted otherBound
    exact Instant.eq_of_text_eq otherLate late texts.symm

/-- The last second of a leap day, and the first second of a year with five digits. -/
theorem created_at_of_leap_day :
    let user : User := .create ⟨5⟩ ⟨951868799, 500000000⟩ "ann" "ann@example.com" none
    let other : User := .create ⟨6⟩ ⟨253402300800, 1⟩ "ann" "ann@example.com" none
    user.createdAt.FromEpoch ∧ other.createdAt.FromEpoch ∧
      user.createdAt.text = "2000-02-29T23:59:59.500Z" ∧
      other.createdAt.text = "+10000-01-01T00:00:00.000000001Z" ∧
      Instant.Spells user.createdAt.text.toList ⟨951868799, 500000000⟩ ∧
      Instant.Spells other.createdAt.text.toList ⟨253402300800, 1⟩ := by
  intro user other
  have late : user.createdAt.FromEpoch := by decide
  have otherLate : other.createdAt.FromEpoch := by decide
  refine ⟨late, otherLate, by decide +kernel, by decide +kernel, ?_, ?_⟩
  · obtain ⟨_, text, printed, bound, spells, _⟩ := created_at_denotes_creation late otherLate
    rw [created_at_of_printed printed bound] at spells
    exact spells
  · obtain ⟨_, text, printed, bound, spells, _⟩ := created_at_denotes_creation otherLate late
    rw [created_at_of_printed printed bound] at spells
    exact spells

end UserRegistry.User
