import UserRegistry.Datetime

/-!
# Reading a date-time with a reason for refusal

`Datetime.read` reads a whole text as a date-time and says of a text that is
none what was expected first: the pieces and separators from left to right, then
the widths of the numbers, then their ranges.
-/

namespace UserRegistry

namespace Datetime

/-- A piece of a date-time text: a run of digits, a separator, or the rest from
the first character that is neither. -/
inductive Piece where
  | digits (digits : List Nat)
  | mark (c : Char)
  | unknown
  deriving DecidableEq

/-- The separators, in one case each. -/
def mark? : Char → Option Char
  | '-' => some '-'
  | ':' => some ':'
  | 'T' => some 'T'
  | 't' => some 'T'
  | ' ' => some ' '
  | 'Z' => some 'Z'
  | 'z' => some 'Z'
  | '+' => some '+'
  | '.' => some '.'
  | _ => none

/-- The pieces of a text, with digits that touch in one piece. -/
def pieces : List Char → List Piece
  | [] => []
  | c :: rest =>
    match Numeral.digit? 10 c, mark? c with
    | some digit, _ =>
      match pieces rest with
      | .digits digits :: more => .digits (digit :: digits) :: more
      | more => .digits [digit] :: more
    | none, some mark => .mark mark :: pieces rest
    | none, none => [.unknown]

/-- The part of a date-time in which something else was expected. -/
inductive Part where
  | whole
  | date
  | dateAndTime
  | time
  | offset
  deriving DecidableEq

/-- Why a text is no date-time: in which part something was expected, and what. -/
structure Fault where
  part : Part
  expected : Option String
  deriving DecidableEq

def Part.name : Part → String
  | .whole => "datetime"
  | .date => "date"
  | .dateAndTime => "date-time"
  | .time => "time"
  | .offset => "offset"

def Fault.message (fault : Fault) : String :=
  match fault.expected with
  | none => String.join ["invalid ", fault.part.name]
  | some expected => String.join ["invalid ", fault.part.name, ", expected ", expected]

/-- A reader of pieces, which gives back the pieces that it leaves. -/
abbrev Reading (α : Type) := List Piece → Except Fault (α × List Piece)

def number (part : Part) (expected : String) : Reading (List Nat)
  | .digits digits :: rest => .ok (digits, rest)
  | _ => .error ⟨part, some expected⟩

def separator (part : Part) (expected : String) (c : Char) (pieces : List Piece) :
    Except Fault (List Piece) :=
  match pieces with
  | .mark found :: rest => if found = c then .ok rest else .error ⟨part, some expected⟩
  | _ => .error ⟨part, some expected⟩

/-- Goes on only if a condition holds. -/
def demand (condition : Bool) (part : Part) (expected : String) : Except Fault Unit :=
  if condition then .ok () else .error ⟨part, some expected⟩

def dayRange (year month : Nat) : String :=
  String.join ["day between 01 and ", toString (daysInMonth year month)]

/-- Reads the rest of a date after its year and the first dash. -/
def dateAfter (year : List Nat) : Reading Date := fun pieces => do
  let (month, rest) ← number .date "month" pieces
  let rest ← separator .date "`-` (MM-DD)" '-' rest
  let (dayDigits, rest) ← number .date "day" rest
  demand (year.length = 4) .date "a four-digit year (YYYY)"
  demand (month.length = 2) .date "a two-digit month (MM)"
  demand (dayDigits.length = 2) .date "a two-digit day (DD)"
  let day : Date :=
    ⟨Numeral.ofDigits 10 year, Numeral.ofDigits 10 month, Numeral.ofDigits 10 dayDigits⟩
  demand (1 ≤ day.month && day.month ≤ 12) .date "month between 01 and 12"
  demand (1 ≤ day.day && day.day ≤ daysInMonth day.year day.month) .date
    (dayRange day.year day.month)
  .ok (day, rest)

def fraction : Reading (List Nat)
  | .mark '.' :: rest => number .time "nanosecond" rest
  | pieces => .ok ([], pieces)

/-- Reads a time of day.  Its numbers are looked at only after all of them were read. -/
def timeOfDay : Reading Time := fun pieces => do
  let (hour, rest) ← number .time "hour" pieces
  let rest ← separator .time "`:` (HH:MM)" ':' rest
  let (minute, rest) ← number .time "minute" rest
  let rest ← separator .time "`:` (MM:SS)" ':' rest
  let (second, rest) ← number .time "second" rest
  let (digits, rest) ← fraction rest
  demand (hour.length = 2) .time "a two-digit hour (HH)"
  demand (minute.length = 2) .time "a two-digit minute (MM)"
  demand (second.length = 2) .time "a two-digit second (SS)"
  let clock : Time :=
    ⟨Numeral.ofDigits 10 hour, Numeral.ofDigits 10 minute, Numeral.ofDigits 10 second,
      nanosecondsOf digits⟩
  demand (clock.hour ≤ 23) .time "hour between 00 and 23"
  demand (clock.minute ≤ 59) .time "minute between 00 and 59"
  demand (clock.second ≤ 60) .time "second between 00 and 60"
  .ok (clock, rest)

/-- Reads the minutes of an offset behind its sign. -/
def distance : Reading Nat := fun pieces => do
  let (hours, rest) ← number .offset "hour" pieces
  let rest ← separator .offset "`:` (HH:MM)" ':' rest
  let (minutes, rest) ← number .offset "minute" rest
  demand (hours.length = 2) .offset "a two-digit hour (HH)"
  demand (minutes.length = 2) .offset "a two-digit minute (MM)"
  let hours := Numeral.ofDigits 10 hours
  let minutes := Numeral.ofDigits 10 minutes
  demand (hours ≤ 23) .offset "hours between 00 and 23"
  demand (minutes ≤ 59) .offset "minutes between 00 and 59"
  .ok (hours * 60 + minutes, rest)

/-- Reads the offset behind a date and a time, if anything stands there. -/
def offsetAfter (day : Date) (clock : Time) : Reading Datetime
  | [] => .ok (.dateAndTime day clock, [])
  | .mark 'Z' :: rest => .ok (.instant day clock .utc, rest)
  | .mark '+' :: rest => do
    let (minutes, rest) ← distance rest
    .ok (.instant day clock (.ahead minutes), rest)
  | .mark '-' :: rest => do
    let (minutes, rest) ← distance rest
    .ok (.instant day clock (.ahead (-minutes)), rest)
  | _ => .error ⟨.offset, some "`Z`, +OFFSET, -OFFSET"⟩

/-- Reads what follows a date: nothing, or a time. -/
def timeAfter (day : Date) : Reading Datetime
  | [] => .ok (.date day, [])
  | .mark delimiter :: rest =>
    if delimiter = 'T' ∨ delimiter = ' ' then do
      let (clock, rest) ← timeOfDay rest
      offsetAfter day clock rest
    else .error ⟨.dateAndTime, some "`T` between date and time"⟩
  | _ => .error ⟨.dateAndTime, some "`T` between date and time"⟩

/-- Reads a date-time of any shape, which its first separator decides. -/
def front : Reading Datetime := fun pieces => do
  let (first, rest) ← number .whole "year or hour" pieces
  match rest with
  | .mark '-' :: rest => do
    let (day, rest) ← dateAfter first rest
    timeAfter day rest
  | .mark ':' :: _ => do
    let (clock, rest) ← timeOfDay pieces
    .ok (.time clock, rest)
  | _ => .error ⟨.whole, some "`-` (YYYY-MM) or `:` (HH:MM)"⟩

/-- Reads a whole text as a date-time. -/
def read (text : String) : Except Fault Datetime := do
  let (datetime, rest) ← front (pieces text.toList)
  if rest.isEmpty then .ok datetime else .error ⟨.whole, none⟩

end Datetime

end UserRegistry
