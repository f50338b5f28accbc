import UserRegistry.Numeral

/-!
# Instants

A point in time as seconds and nanoseconds since the start of 1970, and its
calendar text in universal time.  Days are counted in the proleptic Gregorian
calendar from 1 March of the year 0, so that a leap day ends its year: 400 years
are 146097 days, a century of them 36524 and one more for the last, four years
1461 and one less for the last of a century.
-/

namespace UserRegistry

/-- A point in time: whole seconds since 1970, negative before, and what is left over. -/
structure Instant where
  seconds : Int
  nanoseconds : Nat
  deriving DecidableEq

/-- A day of the calendar; the years before the year 1 are zero and negative. -/
structure CivilDay where
  year : Int
  month : Nat
  day : Nat
  deriving DecidableEq

/-- The calendar day that comes `days` days after 1 January 1970. -/
def CivilDay.ofDays (days : Int) : CivilDay :=
  let fromMarch := days + 719468
  let inEra := (fromMarch % 146097).toNat
  let century := min (inEra / 36524) 3
  let inCentury := inEra - century * 36524
  let inQuad := inCentury % 1461
  let year := min (inQuad / 365) 3
  let inYear := inQuad - year * 365
  let month := (5 * inYear + 2) / 153
  let sinceMarch : Int :=
    fromMarch / 146097 * 400 + (century * 100 + inCentury / 1461 * 4 + year : Nat)
  { year := if month < 10 then sinceMarch else sinceMarch + 1
    month := if month < 10 then month + 3 else month - 9
    day := inYear - (153 * month + 2) / 5 + 1 }

/-- A year has at least four digits, and a sign unless it has exactly four. -/
def CivilDay.writtenYear (year : Int) : List Char :=
  if 0 ≤ year ∧ year ≤ 9999 then Numeral.padded 4 year.toNat
  else (if year < 0 then '-' else '+') :: Numeral.padded 4 year.natAbs

def CivilDay.written (day : CivilDay) : List Char :=
  writtenYear day.year ++ '-' :: Numeral.padded 2 day.month ++ '-' :: Numeral.padded 2 day.day

namespace Instant

/-- The fraction of a second in the fewest of 0, 3, 6 and 9 digits that lose
nothing. -/
def writtenFraction (nanoseconds : Nat) : List Char :=
  if nanoseconds = 0 then []
  else if nanoseconds % 1000000 = 0 then '.' :: Numeral.padded 3 (nanoseconds / 1000000)
  else if nanoseconds % 1000 = 0 then '.' :: Numeral.padded 6 (nanoseconds / 1000)
  else '.' :: Numeral.padded 9 nanoseconds

def written (instant : Instant) : List Char :=
  let inDay := (instant.seconds % 86400).toNat
  (CivilDay.ofDays (instant.seconds / 86400)).written
    ++ 'T' :: Numeral.padded 2 (inDay / 3600)
    ++ ':' :: Numeral.padded 2 (inDay / 60 % 60)
    ++ ':' :: Numeral.padded 2 (inDay % 60)
    ++ writtenFraction instant.nanoseconds ++ ['Z']

/-- The text of an instant, in universal time. -/
def text (instant : Instant) : String :=
  String.ofList instant.written

end Instant

end UserRegistry
