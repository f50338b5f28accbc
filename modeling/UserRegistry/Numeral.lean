/-!
# Numerals

Digits of natural numbers: reading one digit of a base up to sixteen, the value
of a row of digits, and decimal text with and without leading zeros.
-/

namespace UserRegistry.Numeral

/-- The value of a digit of `base`; letters stand for ten to fifteen in either
case. -/
def digit? (base : Nat) (c : Char) : Option Nat :=
  let value :=
    if '0' ≤ c ∧ c ≤ '9' then some (c.toNat - '0'.toNat)
    else if 'a' ≤ c ∧ c ≤ 'f' then some (c.toNat - 'a'.toNat + 10)
    else if 'A' ≤ c ∧ c ≤ 'F' then some (c.toNat - 'A'.toNat + 10)
    else none
  value.filter (· < base)

/-- The number that a row of digit values denotes, most significant first. -/
def ofDigits (base : Nat) (digits : List Nat) : Nat :=
  digits.foldl (fun total digit => base * total + digit) 0

/-- Reads a whole text as digits of `base`; the empty text is no numeral. -/
def read? (base : Nat) (text : List Char) : Option Nat :=
  if text.isEmpty then none
  else (text.mapM (digit? base)).map (ofDigits base)

/-- Reads exactly `count` digits of `base` off the front of a text. -/
def take? (base count : Nat) (text : List Char) : Option (Nat × List Char) :=
  let front := text.take count
  if front.length < count then none
  else (front.mapM (digit? base)).map fun digits => (ofDigits base digits, text.drop count)

/-- One past the largest integer of 64 bits with sign. -/
abbrev signedBound : Nat :=
  0x8000000000000000

/-- One past the largest integer of 64 bits without sign. -/
abbrev unsignedBound : Nat :=
  0x10000000000000000

/-- Decimal text without leading zeros. -/
def decimal (n : Nat) : List Char :=
  Nat.toDigits 10 n

/-- Decimal text of an integer, with a minus sign below zero. -/
def signed : Int → List Char
  | .ofNat n => decimal n
  | .negSucc n => '-' :: decimal (n + 1)

/-- Decimal text with leading zeros up to `width` characters. -/
def padded (width n : Nat) : List Char :=
  List.replicate (width - (decimal n).length) '0' ++ decimal n

end UserRegistry.Numeral
