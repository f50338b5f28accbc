import UserRegistry.Numeral

/-!
# Code points

Characters by the hexadecimal digits of their code points, and the order of
texts by their UTF-8 bytes.
-/

namespace UserRegistry.Text

/-- The character with this code point, unless it is a surrogate or too large. -/
def scalar? (code : Nat) : Option Char :=
  if code.isValidChar then some (Char.ofNat code) else none

def bytes (text : String) : List UInt8 :=
  text.toUTF8.data.toList

/-- Whether the UTF-8 bytes of one text come before those of another. -/
def precedes (left right : String) : Bool :=
  decide (bytes left < bytes right)

end UserRegistry.Text
