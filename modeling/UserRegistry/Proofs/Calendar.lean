import UserRegistry.Datetime
import UserRegistry.Instant

/-!
# Days of the calendar

The days since 1 January 1970 are counted year by year and month by month.  The day of the
calendar that is found for a number of days exists and comes that many days after the start
of 1970, leap days included: they end a year that is counted from March.
-/

namespace UserRegistry

/-! ## Counting days -/

def daysInYear (year : Nat) : Nat :=
  if isLeapYear year then 366 else 365

/-- The days of the first years, from the year 0 on. -/
def daysOfYears : Nat → Nat
  | 0 => 0
  | years + 1 => daysOfYears years + daysInYear years

/-- The days of the first months of a year. -/
def daysOfMonths (year : Nat) : Nat → Nat
  | 0 => 0
  | months + 1 => daysOfMonths year months + daysInMonth year (months + 1)

/-- The month is one of twelve and has the day. -/
def Date.Exists (date : Date) : Prop :=
  1 ≤ date.month ∧ date.month ≤ 12 ∧ 1 ≤ date.day
    ∧ date.day ≤ daysInMonth date.year date.month

instance (date : Date) : Decidable date.Exists :=
  inferInstanceAs (Decidable (_ ∧ _))

/-- The days before a date, from 1 January of the year 0 on. -/
def Date.daysBefore (date : Date) : Nat :=
  daysOfYears date.year + daysOfMonths date.year (date.month - 1) + (date.day - 1)

/-- The days from 1 January 1970 to a date. -/
def Date.sinceEpoch (date : Date) : Int :=
  date.daysBefore - (Date.mk 1970 1 1).daysBefore

theorem isLeapYear_iff (year : Nat) :
    isLeapYear year = true ↔ year % 4 = 0 ∧ (year % 100 ≠ 0 ∨ year % 400 = 0) := by
  simp [isLeapYear]

theorem daysOfYears_eq (years : Nat) :
    daysOfYears years + (years + 99) / 100 =
      365 * years + (years + 3) / 4 + (years + 399) / 400 := by
  induction years with
  | zero => rfl
  | succ years induction =>
      rw [daysOfYears, daysInYear]
      split
      · rename_i leap
        rw [isLeapYear_iff] at leap
        omega
      · rename_i common
        rw [isLeapYear_iff] at common
        omega

theorem daysInMonth_le (year month : Nat) : daysInMonth year month ≤ 31 := by
  unfold daysInMonth
  split
  · split <;> omega
  · split <;> omega

theorem daysOfMonths_of_early {year month : Nat} (early : month ≤ 2) :
    daysOfMonths year (month - 1) = 31 * (month - 1) := by
  have cases : month = 0 ∨ month = 1 ∨ month = 2 := by omega
  rcases cases with rfl | rfl | rfl <;> rfl

/-- From March on the days before a month are as many in every year, a leap day aside. -/
theorem daysOfMonths_of_late {year month : Nat} (late : 3 ≤ month) (last : month ≤ 12) :
    daysOfMonths year (month - 1) + 306 = daysInYear year + (153 * (month - 3) + 2) / 5 := by
  have cases : month = 3 ∨ month = 4 ∨ month = 5 ∨ month = 6 ∨ month = 7 ∨ month = 8 ∨
      month = 9 ∨ month = 10 ∨ month = 11 ∨ month = 12 := by
    omega
  rcases cases with rfl | rfl | rfl | rfl | rfl | rfl | rfl | rfl | rfl | rfl <;>
    cases leap : isLeapYear year <;> simp [daysOfMonths, daysInMonth, daysInYear, leap]

namespace CivilDay

/-! ## Days and their numbers -/

/-- The number of days from 1 January 1970 to a day of the calendar.  Years are counted
from March, so that the days before a month do not depend on the year. -/
def number (day : CivilDay) : Int :=
  let year := if day.month ≤ 2 then day.year - 1 else day.year
  let month := (day.month + 9) % 12
  365 * year + year / 4 - year / 100 + year / 400
    + ((153 * month + 2) / 5 + day.day : Nat) - 719469

/-- The days before a year that is written in eras, centuries, quads of years and
single years. -/
theorem daysBeforeYear (era : Int) {century quad year : Nat} (centuries : century ≤ 3)
    (quads : quad ≤ 24) (years : year ≤ 3) {total : Int}
    (sum : total = era * 400 + (century * 100 + quad * 4 + year : Nat)) :
    365 * total + total / 4 - total / 100 + total / 400 =
      146097 * era + (36524 * century + 1461 * quad + 365 * year : Nat) := by
  omega

theorem monthOfDay {day : Nat} (inside : day ≤ 365) :
    (5 * day + 2) / 153 ≤ 11 ∧ (153 * ((5 * day + 2) / 153) + 2) / 5 ≤ day ∧
      day ≤ (153 * ((5 * day + 2) / 153) + 2) / 5 + 30 := by
  omega

/-- The day that comes so many days after 1 March of a year. -/
def ofMarch (sinceMarch : Int) (day : Nat) : CivilDay :=
  let month := (5 * day + 2) / 153
  { year := if month < 10 then sinceMarch else sinceMarch + 1
    month := if month < 10 then month + 3 else month - 9
    day := day - (153 * month + 2) / 5 + 1 }

/-- A number of days is counted in eras, centuries, quads of years, years and days; only a
quad with a leap year has a year of 366 days. -/
theorem ofDays_eq_ofMarch (days : Int) :
    ∃ (era : Int) (century quad year day : Nat),
      (century ≤ 3 ∧ quad ≤ 24 ∧ year ≤ 3 ∧ day ≤ 365) ∧
        (day = 365 → year = 3 ∧ (quad = 24 → century = 3)) ∧
        days = 146097 * era + (36524 * century + 1461 * quad + 365 * year + day : Nat)
          - 719468 ∧
        ofDays days = ofMarch (era * 400 + (century * 100 + quad * 4 + year : Nat)) day := by
  unfold ofDays
  extract_lets fromMarch inEra century inCentury inQuad year inYear month sinceMarch
  refine ⟨fromMarch / 146097, century, inCentury / 1461, year, inYear, ?_, ?_, ?_, rfl⟩
  · omega
  · omega
  · omega

theorem number_ofMarch (sinceMarch : Int) {day : Nat} (inside : day ≤ 365) :
    (ofMarch sinceMarch day).number =
      365 * sinceMarch + sinceMarch / 4 - sinceMarch / 100 + sinceMarch / 400
        + day - 719468 := by
  unfold ofMarch
  extract_lets month
  obtain ⟨small, first, _⟩ := monthOfDay inside
  have back : month ≤ 11 ∧ (153 * month + 2) / 5 ≤ day := ⟨small, first⟩
  unfold number
  by_cases early : month < 10
  · have late : ¬ month + 3 ≤ 2 := by omega
    have same : (month + 3 + 9) % 12 = month := by omega
    simp only [if_pos early, if_neg late, same]
    omega
  · have late : month - 9 ≤ 2 := by omega
    have same : (month - 9 + 9) % 12 = month := by omega
    simp only [if_neg early, if_pos late, same]
    omega

theorem number_ofDays (days : Int) : (ofDays days).number = days := by
  obtain ⟨era, century, quad, year, day, bounds, _, counted, same⟩ := ofDays_eq_ofMarch days
  obtain ⟨centuries, quads, years, inside⟩ := bounds
  have before := daysBeforeYear era centuries quads years rfl
  rw [same, number_ofMarch _ inside, counted]
  omega

/-- The same day as a date, for a year that is not negative. -/
def date (day : CivilDay) : Date :=
  ⟨day.year.toNat, day.month, day.day⟩

/-- The days since 1970 that are counted year by year and month by month are the number of
the day. -/
theorem sinceEpoch_eq_number {date : Date} (existing : date.Exists) :
    date.sinceEpoch = number ⟨date.year, date.month, date.day⟩ := by
  obtain ⟨year, month, day⟩ := date
  obtain ⟨first, last, firstDay, _⟩ := existing
  dsimp only at first last firstDay
  have start : (Date.mk 1970 1 1).daysBefore = 719528 := by
    have years := daysOfYears_eq 1970
    have months : daysOfMonths 1970 (1 - 1) = 0 := rfl
    simp only [Date.daysBefore]
    omega
  rw [Date.sinceEpoch, start]
  simp only [Date.daysBefore, number]
  by_cases early : month ≤ 2
  · have years := daysOfYears_eq year
    rw [daysOfMonths_of_early early, if_pos early]
    omega
  · -- the days of a year that is counted from March end with its leap day
    have years := daysOfYears_eq (year + 1)
    have months := @daysOfMonths_of_late year month (by omega) last
    rw [daysOfYears] at years
    rw [if_neg early]
    omega

theorem daysInMonth_ofMarch (year : Nat) {month : Nat} (before : month ≤ 10) :
    daysInMonth year (if month < 10 then month + 3 else month - 9) + (153 * month + 2) / 5 =
      (153 * (month + 1) + 2) / 5 := by
  have cases : month = 0 ∨ month = 1 ∨ month = 2 ∨ month = 3 ∨ month = 4 ∨ month = 5 ∨
      month = 6 ∨ month = 7 ∨ month = 8 ∨ month = 9 ∨ month = 10 := by
    omega
  rcases cases with rfl | rfl | rfl | rfl | rfl | rfl | rfl | rfl | rfl | rfl | rfl <;> rfl

theorem year_ofDays_nonneg {days : Int} (nonneg : 0 ≤ days) : 0 ≤ (ofDays days).year := by
  obtain ⟨era, century, quad, year, day, bounds, _, counted, same⟩ := ofDays_eq_ofMarch days
  rw [same, ofMarch]
  dsimp only
  split <;> omega

/-- A day of a year from March on exists, if the last is a day of a leap year. -/
theorem exists_ofMarch {sinceMarch : Int} {day : Nat} (inside : day ≤ 365)
    (leap : day = 365 → isLeapYear (sinceMarch + 1).toNat = true) :
    (ofMarch sinceMarch day).date.Exists := by
  unfold ofMarch date Date.Exists
  extract_lets month
  obtain ⟨small, first, _⟩ := monthOfDay inside
  have back : month ≤ 11 ∧ (153 * month + 2) / 5 ≤ day := ⟨small, first⟩
  have next : day < (153 * (month + 1) + 2) / 5 := by omega
  dsimp only
  by_cases before : month ≤ 10
  · have length := daysInMonth_ofMarch
      (if month < 10 then sinceMarch else sinceMarch + 1).toNat before
    refine ⟨?_, ?_, Nat.succ_pos _, ?_⟩
    · split <;> omega
    · split <;> omega
    · omega
  · have february : month = 11 := by omega
    rw [february]
    refine ⟨by decide, by decide, Nat.succ_pos _, ?_⟩
    have length : daysInMonth (sinceMarch + 1).toNat 2 =
        if isLeapYear (sinceMarch + 1).toNat then 29 else 28 := rfl
    show day - 337 + 1 ≤ daysInMonth (sinceMarch + 1).toNat 2
    rw [length]
    split
    · omega
    · rename_i common
      have early : day ≠ 365 := fun last => common (leap last)
      omega

theorem exists_ofDays {days : Int} (nonneg : 0 ≤ days) : (ofDays days).date.Exists := by
  obtain ⟨era, century, quad, year, day, bounds, last, counted, same⟩ := ofDays_eq_ofMarch days
  rw [same]
  refine exists_ofMarch bounds.2.2.2 fun final => ?_
  obtain ⟨lastYear, lastQuad⟩ := last final
  rw [isLeapYear_iff]
  omega

theorem sinceEpoch_date {day : CivilDay} (nonneg : 0 ≤ day.year) (existing : day.date.Exists) :
    day.date.sinceEpoch = day.number := by
  have back : ((day.year.toNat : Nat) : Int) = day.year := Int.toNat_of_nonneg nonneg
  rw [sinceEpoch_eq_number existing, date, back]

/-- The day that is found for a number of days comes that many days after the start of
1970. -/
theorem sinceEpoch_ofDays {days : Int} (nonneg : 0 ≤ days) :
    (ofDays days).date.sinceEpoch = days := by
  rw [sinceEpoch_date (year_ofDays_nonneg nonneg) (exists_ofDays nonneg), number_ofDays]

end CivilDay

end UserRegistry
