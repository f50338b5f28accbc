import UserRegistry.Datetime

/-!
# Date-time literals

`Datetime.literal?` reads the longest date-time at the front of a text: a date,
a date and a time joined by `T`, `t` or one space, the same with an offset, or a
time.  Values that do not exist, such as 30 February, are refused.
-/

namespace UserRegistry

/-- Reads `YYYY-MM-DD`. -/
def Date.literal? (text : List Char) : Option (Date × List Char) := do
  let (year, rest) ← Numeral.take? 10 4 text
  let '-' :: rest := rest | none
  let (month, rest) ← Numeral.take? 10 2 rest
  let '-' :: rest := rest | none
  let (day, rest) ← Numeral.take? 10 2 rest
  let date : Date := ⟨year, month, day⟩
  if date.Valid then some (date, rest) else none

/-- Reads the digits after a point; a point without digits is left alone. -/
def Time.fractionLiteral (text : List Char) : Nat × List Char :=
  match text with
  | '.' :: rest =>
    let digits := (rest.takeWhile Char.isDigit).filterMap (Numeral.digit? 10)
    if digits.isEmpty then (0, text)
    else (nanosecondsOf digits, rest.dropWhile Char.isDigit)
  | _ => (0, text)

/-- Reads `HH:MM:SS` and a fraction. -/
def Time.literal? (text : List Char) : Option (Time × List Char) := do
  let (hour, rest) ← Numeral.take? 10 2 text
  let ':' :: rest := rest | none
  let (minute, rest) ← Numeral.take? 10 2 rest
  let ':' :: rest := rest | none
  let (second, rest) ← Numeral.take? 10 2 rest
  let (nanosecond, rest) := fractionLiteral rest
  let time : Time := ⟨hour, minute, second, nanosecond⟩
  if time.Valid then some (time, rest) else none

/-- Reads `HH:MM` as minutes. -/
def Offset.distance? (text : List Char) : Option (Nat × List Char) := do
  let (hours, rest) ← Numeral.take? 10 2 text
  let ':' :: rest := rest | none
  let (minutes, rest) ← Numeral.take? 10 2 rest
  if hours ≤ 23 ∧ minutes ≤ 59 then some (hours * 60 + minutes, rest) else none

/-- Reads `Z`, `z` or a signed distance. -/
def Offset.literal? : List Char → Option (Offset × List Char)
  | 'Z' :: rest => some (.utc, rest)
  | 'z' :: rest => some (.utc, rest)
  | '+' :: rest => (distance? rest).map fun (minutes, rest) => (.ahead minutes, rest)
  | '-' :: rest => (distance? rest).map fun (minutes, rest) => (.ahead (-minutes), rest)
  | _ => none

/-- Whether a character may stand between a date and a time. -/
def isDateTimeDelimiter (c : Char) : Bool :=
  c = 'T' || c = 't' || c = ' '

def Time.delimited? : List Char → Option (Time × List Char)
  | delimiter :: rest => if isDateTimeDelimiter delimiter then literal? rest else none
  | [] => none

/-- Reads the longest date-time at the front of a text. -/
def Datetime.literal? (text : List Char) : Option (Datetime × List Char) :=
  match Date.literal? text with
  | some (day, rest) =>
    match Time.delimited? rest with
    | some (clock, rest) =>
      match Offset.literal? rest with
      | some (offset, rest) => some (.instant day clock offset, rest)
      | none => some (.dateAndTime day clock, rest)
    | none => some (.date day, rest)
  | none => (Time.literal? text).map fun (clock, rest) => (.time clock, rest)

end UserRegistry
