import UserRegistry.Proofs.Calendar
import UserRegistry.Proofs.DigitRows

/-!
# Texts of instants

`Instant.Spells` relates a text to the instant that it denotes: a day that exists, a time of
that day, and a fraction of a second in the fewest digits.  A text denotes one instant, and
from 1970 on the text of an instant denotes it, so that different instants have different
texts.
-/

namespace UserRegistry

/-! ## Years -/

/-- A year in four digits, or a later one with a plus sign. -/
inductive Date.SpellsYear : List Char → Nat → Prop where
  | short {year : Nat} (small : year ≤ 9999) : SpellsYear (Numeral.padded 4 year) year
  | long {year : Nat} (large : 9999 < year) : SpellsYear ('+' :: Numeral.decimal year) year

/-- The year of a text that has no minus sign. -/
def CivilDay.readYear : List Char → Int
  | '+' :: digits => Nat.ofDigitChars 10 digits 0
  | digits => Nat.ofDigitChars 10 digits 0

theorem CivilDay.readYear_of_digits {digits : List Char}
    (digit : ∀ c ∈ digits, c.isDigit = true) :
    readYear digits = Nat.ofDigitChars 10 digits 0 := by
  unfold readYear
  split
  · have plus := digit '+' List.mem_cons_self
    contradiction
  · rfl

namespace Date.SpellsYear

variable {year otherYear : Nat} {text : List Char}

theorem of_written {year : Int} (nonneg : 0 ≤ year) :
    SpellsYear (CivilDay.writtenYear year) year.toNat := by
  unfold CivilDay.writtenYear
  split
  · rename_i small
    exact .short (by omega)
  · have large : 9999 < year.toNat := by omega
    have width : 4 ≤ (Numeral.decimal year.toNat).length := by
      by_contra short
      have bound := (Nat.length_toDigits_le_iff (by omega) (by omega)).mp
        (show (Numeral.decimal year.toNat).length ≤ 3 by omega)
      omega
    have same : year.natAbs = year.toNat := by omega
    rw [if_neg (by omega), same, Numeral.padded_eq_decimal width]
    exact .long large

theorem not_hyphen (spells : SpellsYear text year) : '-' ∉ text := by
  cases spells with
  | short small => exact Numeral.not_mem_padded rfl
  | long large =>
      intro inside
      rcases List.mem_cons.mp inside with sign | digit
      · contradiction
      · exact absurd (Numeral.isDigit_of_mem_decimal digit) (by decide)

theorem readYear_eq (spells : SpellsYear text year) : CivilDay.readYear text = year := by
  cases spells with
  | short small =>
      rw [CivilDay.readYear_of_digits fun c inside => Numeral.isDigit_of_mem_padded inside,
        Numeral.ofDigitChars_padded]
  | long large => rw [CivilDay.readYear, Numeral.ofDigitChars_decimal]

theorem unique (spells : SpellsYear text year) (otherSpells : SpellsYear text otherYear) :
    year = otherYear := by
  have same := spells.readYear_eq
  rw [otherSpells.readYear_eq] at same
  exact (Int.natCast_inj.mp same).symm

end Date.SpellsYear

namespace Instant

/-! ## Fractions of a second -/

/-- A fraction of a second in the fewest of no, three, six and nine digits that tell the
nanoseconds. -/
inductive SpellsFraction : List Char → Nat → Prop where
  | absent : SpellsFraction [] 0
  | digits {width n : Nat} (known : width ∈ [3, 6, 9]) (bound : n < Nat.pow 10 width)
      (fewest : ∀ fewer ∈ [0, 3, 6, 9],
        Nat.pow 10 (9 - fewer) ∣ n * Nat.pow 10 (9 - width) → width ≤ fewer) :
      SpellsFraction ('.' :: Numeral.padded width n) (n * Nat.pow 10 (9 - width))

/-- The nanoseconds of a fraction: its digits behind the point, filled up to nine. -/
def readFraction : List Char → Nat
  | [] => 0
  | _ :: digits => Nat.ofDigitChars 10 digits 0 * Nat.pow 10 (9 - digits.length)

namespace SpellsFraction

variable {nanoseconds otherNanoseconds : Nat} {text : List Char}

theorem of_written (bound : nanoseconds < 1000000000) :
    SpellsFraction (writtenFraction nanoseconds) nanoseconds := by
  -- a width is the fewest when the last three digits are not all zeros
  have fewest {width n : Nat} (known : width ∈ [3, 6, 9]) (small : n < Nat.pow 10 width)
      (lossy : n % 1000 ≠ 0) :
      SpellsFraction ('.' :: Numeral.padded width n) (n * Nat.pow 10 (9 - width)) := by
    refine .digits known small ?_
    intro fewer candidate divides
    simp only [List.mem_cons, List.not_mem_nil, or_false] at known candidate
    rcases known with rfl | rfl | rfl <;> rcases candidate with rfl | rfl | rfl | rfl <;>
      simp only [Nat.pow_eq, Nat.reducePow, Nat.reduceSub] at small divides <;> omega
  unfold writtenFraction
  split
  · subst nanoseconds
    exact .absent
  split
  · have spelled : SpellsFraction ('.' :: Numeral.padded 3 (nanoseconds / 1000000))
        (nanoseconds / 1000000 * 1000000) :=
      fewest (by decide) (show _ < 1000 by omega) (by omega)
    rwa [show nanoseconds / 1000000 * 1000000 = nanoseconds by omega] at spelled
  split
  · have spelled : SpellsFraction ('.' :: Numeral.padded 6 (nanoseconds / 1000))
        (nanoseconds / 1000 * 1000) :=
      fewest (by decide) (show _ < 1000000 by omega) (by omega)
    rwa [show nanoseconds / 1000 * 1000 = nanoseconds by omega] at spelled
  · have spelled : SpellsFraction ('.' :: Numeral.padded 9 nanoseconds) (nanoseconds * 1) :=
      fewest (by decide) bound (by omega)
    rwa [Nat.mul_one] at spelled

theorem readFraction_eq (spells : SpellsFraction text nanoseconds) :
    readFraction text = nanoseconds := by
  cases spells with
  | absent => rfl
  | @digits width n known bound fewest =>
      have positive : 0 < width := by
        simp only [List.mem_cons, List.not_mem_nil, or_false] at known
        omega
      rw [readFraction, Numeral.ofDigitChars_padded, Numeral.length_padded positive bound]

theorem unique (spells : SpellsFraction text nanoseconds)
    (otherSpells : SpellsFraction text otherNanoseconds) : nanoseconds = otherNanoseconds := by
  rw [← spells.readFraction_eq, otherSpells.readFraction_eq]

end SpellsFraction

/-! ## Instants -/

/-- A day that exists, a time of that day in universal time, and a fraction of its second.
The seconds are counted from the start of 1970. -/
inductive Spells : List Char → Instant → Prop where
  | intro {date : Date} {hour minute second nanoseconds : Nat} {year fraction : List Char}
      (spelledYear : Date.SpellsYear year date.year) (existing : date.Exists)
      (hours : hour ≤ 23) (minutes : minute ≤ 59) (seconds : second ≤ 59)
      (spelledFraction : SpellsFraction fraction nanoseconds) :
      Spells
        (year ++ '-' :: Numeral.padded 2 date.month ++ '-' :: Numeral.padded 2 date.day
          ++ 'T' :: Numeral.padded 2 hour ++ ':' :: Numeral.padded 2 minute
          ++ ':' :: Numeral.padded 2 second ++ fraction ++ ['Z'])
        ⟨86400 * date.sinceEpoch + (3600 * hour + 60 * minute + second : Nat), nanoseconds⟩

/-- A point in time from 1970 on, with less than a second in nanoseconds. -/
def FromEpoch (instant : Instant) : Prop :=
  0 ≤ instant.seconds ∧ instant.nanoseconds < 1000000000

instance (instant : Instant) : Decidable instant.FromEpoch :=
  inferInstanceAs (Decidable (_ ∧ _))

variable {instant other : Instant}

/-- From 1970 on the text of an instant denotes it. -/
theorem spells_written (late : instant.FromEpoch) : Spells instant.written instant := by
  obtain ⟨seconds, nanoseconds⟩ := instant
  obtain ⟨nonneg, bound⟩ := late
  dsimp only at nonneg bound
  have days : 0 ≤ seconds / 86400 := Int.ediv_nonneg nonneg (by omega)
  let inDay := (seconds % 86400).toNat
  have hours : inDay / 3600 ≤ 23 := by omega
  have minutes : inDay / 60 % 60 ≤ 59 := by omega
  have inMinute : inDay % 60 ≤ 59 := by omega
  have spelled := Spells.intro
    (Date.SpellsYear.of_written (CivilDay.year_ofDays_nonneg days))
    (CivilDay.exists_ofDays days) hours minutes inMinute (SpellsFraction.of_written bound)
  have counted : 86400 * (seconds / 86400) +
      (3600 * (inDay / 3600) + 60 * (inDay / 60 % 60) + inDay % 60 : Nat) = seconds := by
    omega
  rw [CivilDay.sinceEpoch_ofDays days, counted] at spelled
  exact spelled

theorem eq_of_spells {text : List Char} (spells : Spells text instant)
    (otherSpells : Spells text other) : instant = other := by
  generalize same : text = otherText at otherSpells
  obtain ⟨year, existing, hours, minutes, seconds, fraction⟩ := spells
  obtain ⟨otherYear, otherExisting, otherHours, otherMinutes, otherSeconds, otherFraction⟩ :=
    otherSpells
  have inYear {date : Date} (existing : date.Exists) : date.month ≤ 99 ∧ date.day ≤ 99 := by
    have longest := daysInMonth_le date.year date.month
    obtain ⟨_, month, _, day⟩ := existing
    omega
  simp only [List.append_assoc, List.cons_append] at same
  obtain ⟨rfl, behindYear⟩ := Text.eq_of_marked year.not_hyphen otherYear.not_hyphen same
  obtain ⟨months, behindMonth⟩ := Numeral.two_append_injective (inYear existing).1
    (inYear otherExisting).1 behindYear
  obtain ⟨days, behindDay⟩ := Numeral.two_append_injective (inYear existing).2
    (inYear otherExisting).2 (List.cons.inj behindMonth).2
  obtain ⟨rfl, behindHour⟩ := Numeral.two_append_injective (by omega) (by omega)
    (List.cons.inj behindDay).2
  obtain ⟨rfl, behindMinute⟩ := Numeral.two_append_injective (by omega) (by omega)
    (List.cons.inj behindHour).2
  obtain ⟨rfl, behindSecond⟩ := Numeral.two_append_injective (by omega) (by omega)
    (List.cons.inj behindMinute).2
  obtain rfl := List.append_cancel_right behindSecond
  have dates (left right : Date) (years : left.year = right.year)
      (months : left.month = right.month) (days : left.day = right.day) : left = right := by
    cases left
    cases right
    simp_all
  rw [dates _ _ (year.unique otherYear) months days, fraction.unique otherFraction]

theorem text_toList (instant : Instant) : instant.text.toList = instant.written := by
  rw [text, String.toList_ofList]

theorem eq_of_text_eq {left right : Instant} (leftLate : left.FromEpoch)
    (rightLate : right.FromEpoch) (equality : left.text = right.text) : left = right := by
  have spells := spells_written leftLate
  rw [← text_toList, equality, text_toList] at spells
  exact eq_of_spells spells (spells_written rightLate)

end Instant

end UserRegistry
