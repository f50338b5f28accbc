import UserRegistry.Binary64
import UserRegistry.Datetime.Literal
import UserRegistry.Value

/-!
# TOML numbers

Integers in four bases and floats.  Single underscores may separate digits.  An
integer fits 64 bits with sign.  A float is the nearest one; a literal that
rounds to positive infinity is refused.
-/

namespace UserRegistry.Toml

/-- Reads more digits of `base`, each after at most one underscore. -/
def moreDigits (base : Nat) : List Char → List Nat × List Char
  | [] => ([], [])
  | '_' :: rest =>
    match rest with
    | [] => ([], ['_'])
    | c :: more =>
      match Numeral.digit? base c with
      | some digit =>
        let (digits, rest) := moreDigits base more
        (digit :: digits, rest)
      | none => ([], '_' :: rest)
  | c :: rest =>
    match Numeral.digit? base c with
    | some digit =>
      let (digits, rest) := moreDigits base rest
      (digit :: digits, rest)
    | none => ([], c :: rest)

def digits? (base : Nat) : List Char → Option (List Nat × List Char)
  | [] => none
  | c :: rest => do
    let digit ← Numeral.digit? base c
    let (digits, rest) := moreDigits base rest
    some (digit :: digits, rest)

/-- Reads the whole digits of a decimal number: a zero stands alone. -/
def whole? : List Char → Option (List Nat × List Char)
  | '0' :: rest => some ([0], rest)
  | text => digits? 10 text

/-- An integer value, if it fits 64 bits with sign. -/
def integer? (n : Int) : Option Value :=
  if -Numeral.signedBound ≤ n ∧ n < Numeral.signedBound then some (.integer n) else none

/-- Reads a sign; none counts as plus. -/
def sign : List Char → Bool × List Char
  | '-' :: rest => (true, rest)
  | '+' :: rest => (false, rest)
  | text => (false, text)

/-- Reads the digits after a point.  The result is empty if there is no point. -/
def fraction? : List Char → Option (List Nat × List Char)
  | '.' :: rest => digits? 10 rest
  | text => some ([], text)

def exponent? : List Char → Option (Option Int × List Char)
  | [] => some (none, [])
  | c :: rest =>
    if c = 'e' ∨ c = 'E' then do
      let (negative, rest) := sign rest
      let (digits, rest) ← digits? 10 rest
      let size : Int := Numeral.ofDigits 10 digits
      some (some (if negative then -size else size), rest)
    else some (none, c :: rest)

/-- A float value, unless it is positive infinity. -/
def float? (number : Binary64) : Option Value :=
  if number = .infinite false then none else some (.float number)

def decimal? (negative : Bool) (text : List Char) : Option (Value × List Char) := do
  let (whole, rest) ← whole? text
  let (fraction, rest) ← fraction? rest
  let (exponent, rest) ← exponent? rest
  if fraction.isEmpty ∧ exponent = none then
    let size : Int := Numeral.ofDigits 10 whole
    let value ← integer? (if negative then -size else size)
    some (value, rest)
  else
    let significand := Numeral.ofDigits 10 (whole ++ fraction)
    let value ← float?
      (Binary64.ofDecimal negative significand (exponent.getD 0 - fraction.length))
    some (value, rest)

/-- Reads the digits of an integer of `base` after its mark. -/
def based? (base : Nat) (text : List Char) : Option (Value × List Char) := do
  let (digits, rest) ← digits? base text
  let value ← integer? (Numeral.ofDigits base digits)
  some (value, rest)

/-- Reads a number after its sign: infinity, not a number, or a decimal. -/
def signed? (negative : Bool) : List Char → Option (Value × List Char)
  | 'i' :: 'n' :: 'f' :: rest => some (.float (.infinite negative), rest)
  | 'n' :: 'a' :: 'n' :: rest => some (.float .nan, rest)
  | text => decimal? negative text

def number? : List Char → Option (Value × List Char)
  | '0' :: 'x' :: rest => based? 16 rest
  | '0' :: 'o' :: rest => based? 8 rest
  | '0' :: 'b' :: rest => based? 2 rest
  | text =>
    let (negative, rest) := sign text
    signed? negative rest

def numberOrDatetime? (text : List Char) : Option (Value × List Char) :=
  match Datetime.literal? text with
  | some (datetime, rest) => some (.datetime datetime, rest)
  | none => number? text

end UserRegistry.Toml
