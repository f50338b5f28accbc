import UserRegistry.Numeral

/-!
# Dates and times

The four shapes of a date-time literal and their canonical text.  A date is a
day of the proleptic Gregorian calendar in the years 0 to 9999; a second may be
the leap second 60; an offset is counted in minutes and may be the letter `Z`.
-/

namespace UserRegistry

def isLeapYear (year : Nat) : Bool :=
  year % 4 == 0 && (year % 100 != 0 || year % 400 == 0)

def daysInMonth (year month : Nat) : Nat :=
  if month = 2 then (if isLeapYear year then 29 else 28)
  else if month = 4 ∨ month = 6 ∨ month = 9 ∨ month = 11 then 30
  else 31

/-- A day by its numbers, which `Date.Valid` restricts to those that exist. -/
structure Date where
  year : Nat
  month : Nat
  day : Nat
  deriving DecidableEq

/-- A time of day by its numbers, which `Time.Valid` restricts to those that exist. -/
structure Time where
  hour : Nat
  minute : Nat
  second : Nat
  nanosecond : Nat
  deriving DecidableEq

/-- The distance from universal time: the letter `Z`, or the minutes by which
local time is ahead. -/
inductive Offset where
  | utc
  | ahead (minutes : Int)
  deriving DecidableEq

/-- A date, a time, both, or both with an offset. -/
inductive Datetime where
  | date (date : Date)
  | time (time : Time)
  | dateAndTime (date : Date) (time : Time)
  | instant (date : Date) (time : Time) (offset : Offset)
  deriving DecidableEq

/-- The day exists and its year has four digits. -/
def Date.Valid (date : Date) : Prop :=
  date.year ≤ 9999 ∧ 1 ≤ date.month ∧ date.month ≤ 12
    ∧ 1 ≤ date.day ∧ date.day ≤ daysInMonth date.year date.month

instance (date : Date) : Decidable date.Valid :=
  inferInstanceAs (Decidable (_ ∧ _))

/-- The time exists, a leap second included. -/
def Time.Valid (time : Time) : Prop :=
  time.hour ≤ 23 ∧ time.minute ≤ 59 ∧ time.second ≤ 60 ∧ time.nanosecond < 1000000000

instance (time : Time) : Decidable time.Valid :=
  inferInstanceAs (Decidable (_ ∧ _))

/-- The offset is less than a day. -/
def Offset.Valid : Offset → Prop
  | .utc => True
  | .ahead minutes => minutes.natAbs < 24 * 60

def Date.written (date : Date) : List Char :=
  Numeral.padded 4 date.year ++ '-' :: Numeral.padded 2 date.month
    ++ '-' :: Numeral.padded 2 date.day

/-- A fraction of a second without trailing zeros, or nothing when it is zero. -/
def Time.writtenFraction (nanosecond : Nat) : List Char :=
  if nanosecond = 0 then []
  else '.' :: ((Numeral.padded 9 nanosecond).reverse.dropWhile (· = '0')).reverse

/-- Hour, minute and second with leading zeros, then the fraction. -/
def Time.written (time : Time) : List Char :=
  Numeral.padded 2 time.hour ++ ':' :: Numeral.padded 2 time.minute
    ++ ':' :: Numeral.padded 2 time.second ++ writtenFraction time.nanosecond

/-- `Z`, or the sign, hours and minutes; a zero distance has a plus sign. -/
def Offset.written : Offset → List Char
  | .utc => ['Z']
  | .ahead minutes =>
    (if minutes < 0 then '-' else '+') :: Numeral.padded 2 (minutes.natAbs / 60)
      ++ ':' :: Numeral.padded 2 (minutes.natAbs % 60)

namespace Datetime

/-- The canonical text, with `T` between date and time. -/
def written : Datetime → List Char
  | .date day => day.written
  | .time clock => clock.written
  | .dateAndTime day clock => day.written ++ 'T' :: clock.written
  | .instant day clock offset => day.written ++ 'T' :: clock.written ++ offset.written

/-- The canonical text of a date-time. -/
def text (datetime : Datetime) : String :=
  String.ofList datetime.written

end Datetime

/-- The nanoseconds of the digits after a point; those after the ninth are cut
off. -/
def nanosecondsOf (digits : List Nat) : Nat :=
  Numeral.ofDigits 10 (digits.take 9) * Nat.pow 10 (9 - digits.length)

end UserRegistry
