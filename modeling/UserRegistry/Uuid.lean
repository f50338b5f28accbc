import UserRegistry.Numeral

/-!
# Identifiers

A 128-bit identifier, ordered as a number, and its text: 32 lower-case
hexadecimal digits in groups of 8, 4, 4, 4 and 12.  `Uuid.random` stamps random
bits as an identifier of version 4.
-/

namespace UserRegistry

/-- An identifier: 128 bits, of which a random one leaves 122 free. -/
structure Uuid where
  bits : BitVec 128
  deriving DecidableEq

namespace Uuid

/-- The bits that the version and the variant leave free. -/
def freeBits : BitVec 128 :=
  0xffffffffffff0fff3fffffffffffffff#128

/-- Version 4 and the variant with the top bits `10`. -/
def stamp : BitVec 128 :=
  0x00000000000040008000000000000000#128

/-- The identifier of version 4 made from random bits. -/
def random (bits : BitVec 128) : Uuid :=
  ⟨(bits &&& freeBits) ||| stamp⟩

/-- The hexadecimal digits of a number, exactly `count` of them. -/
def hexDigits : (count : Nat) → Nat → List Char
  | 0, _ => []
  | count + 1, n => hexDigits count (n / 16) ++ [(n % 16).digitChar]

/-- Puts hyphens between the five groups of digits. -/
def hyphenated (digits : List Char) : List Char :=
  digits.take 8 ++ '-' :: (digits.drop 8).take 4 ++ '-' :: (digits.drop 12).take 4
    ++ '-' :: (digits.drop 16).take 4 ++ '-' :: digits.drop 20

/-- The text of an identifier, always of 36 characters. -/
def text (id : Uuid) : String :=
  String.ofList (hyphenated (hexDigits 32 id.bits.toNat))

/-- Reads the text of an identifier, digits in either case. -/
def ofText? (text : String) : Option Uuid := do
  let (first, rest) ← Numeral.take? 16 8 text.toList
  let '-' :: rest := rest | none
  let (second, rest) ← Numeral.take? 16 4 rest
  let '-' :: rest := rest | none
  let (third, rest) ← Numeral.take? 16 4 rest
  let '-' :: rest := rest | none
  let (fourth, rest) ← Numeral.take? 16 4 rest
  let '-' :: rest := rest | none
  let (fifth, rest) ← Numeral.take? 16 12 rest
  let groups := [(8, first), (4, second), (4, third), (4, fourth), (12, fifth)]
  if rest.isEmpty then
    some ⟨.ofNat 128 (groups.foldl (fun total (width, group) => total * Nat.pow 16 width + group) 0)⟩
  else none

/-- Whether one identifier comes before another or is the same. -/
def le (left right : Uuid) : Bool :=
  left.bits.toNat ≤ right.bits.toNat

end Uuid

end UserRegistry
