import UserRegistry.Json

/-!
# Reading JSON

A reader for the standard grammar.  Objects keep their members in the order of
the text.  An integer literal is an integer when it fits 64 bits, signed or
unsigned, and any other number is the nearest float; a number too large for a
finite float is refused, and so is a lone surrogate.
-/

namespace UserRegistry.Json

def isSpace (c : Char) : Bool :=
  c = ' ' || c = '\t' || c = '\n' || c = '\r'

def skipSpace (text : List Char) : List Char :=
  text.dropWhile isSpace

/-- The character that a letter after a backslash stands for. -/
def unescaped? : Char → Option Char
  | '"' => some '"'
  | '\\' => some '\\'
  | '/' => some '/'
  | 'b' => some '\x08'
  | 'f' => some '\x0c'
  | 'n' => some '\n'
  | 'r' => some '\r'
  | 't' => some '\t'
  | _ => none

/-- The code point of a surrogate pair. -/
def paired? (high low : Nat) : Option Char :=
  if 0xD800 ≤ high ∧ high < 0xDC00 ∧ 0xDC00 ≤ low ∧ low < 0xE000 then
    Text.scalar? (0x10000 + (high - 0xD800) * 0x400 + (low - 0xDC00))
  else none

/-- Reads a string behind its opening quote, up to and with the closing one. -/
def stringRest : List Char → Option (List Char × List Char)
  | [] => none
  | '"' :: rest => some ([], rest)
  | '\\' :: rest =>
    match rest with
    | 'u' :: a :: b :: c :: d :: rest => do
      let code ← Numeral.read? 16 [a, b, c, d]
      match Text.scalar? code with
      | some character =>
        let (text, rest) ← stringRest rest
        some (character :: text, rest)
      | none =>
        match rest with
        | '\\' :: 'u' :: e :: f :: g :: h :: rest =>
          let low ← Numeral.read? 16 [e, f, g, h]
          let character ← paired? code low
          let (text, rest) ← stringRest rest
          some (character :: text, rest)
        | _ => none
    | letter :: rest => do
      let character ← unescaped? letter
      let (text, rest) ← stringRest rest
      some (character :: text, rest)
    | [] => none
  | c :: rest =>
    if c.toNat < 0x20 then none
    else do
      let (text, rest) ← stringRest rest
      some (c :: text, rest)

/-- A run of decimal digits, which must not be empty. -/
def digits? (text : List Char) : Option (List Char × List Char) :=
  if (text.takeWhile Char.isDigit).isEmpty then none
  else some (text.takeWhile Char.isDigit, text.dropWhile Char.isDigit)

def fraction? : List Char → Option (List Char × List Char)
  | '.' :: rest => digits? rest
  | rest => some ([], rest)

/-- Reads an exponent, if the text goes on with one. -/
def exponent? : List Char → Option (Option Int × List Char)
  | c :: rest =>
    if c = 'e' ∨ c = 'E' then do
      let (negative, rest) :=
        match rest with
        | '-' :: rest => (true, rest)
        | '+' :: rest => (false, rest)
        | rest => (false, rest)
      let (digits, rest) ← digits? rest
      let size : Int := Nat.ofDigitChars 10 digits 0
      some (some (if negative then -size else size), rest)
    else some (none, c :: rest)
  | [] => some (none, [])

/-- The number written by a sign, whole digits, a fraction and an exponent. -/
def number? (negative : Bool) (whole fraction : List Char) (exponent : Option Int) :
    Option Json :=
  let integer := Nat.ofDigitChars 10 whole 0
  let float :=
    Binary64.ofDecimal negative (Nat.ofDigitChars 10 (whole ++ fraction) 0)
      (exponent.getD 0 - fraction.length)
  let isWhole := fraction.isEmpty && exponent.isNone
  if isWhole ∧ negative = false ∧ integer < Numeral.unsignedBound then
    some (.integer integer)
  else if isWhole ∧ negative ∧ 0 < integer ∧ integer ≤ Numeral.signedBound then
    some (.integer (-integer))
  else
    match float with
    | .finite number => some (.float number)
    | _ => none

/-- Reads a number; a leading zero stands alone before the point. -/
def number (text : List Char) : Option (Json × List Char) := do
  let (negative, text) :=
    match text with
    | '-' :: rest => (true, rest)
    | rest => (false, rest)
  let (whole, rest) ← digits? text
  if whole.head? = some '0' ∧ 1 < whole.length then none
  else
    let (fraction, rest) ← fraction? rest
    let (exponent, rest) ← exponent? rest
    let value ← number? negative whole fraction exponent
    some (value, rest)

mutual

/-- Reads a value that starts at the first character.  `fuel` bounds the calls
that are open at once. -/
def value : Nat → List Char → Option (Json × List Char)
  | 0, _ => none
  | fuel + 1, text =>
    match text with
    | '"' :: rest => (stringRest rest).map fun (text, rest) => (.string (.ofList text), rest)
    | '[' :: rest => (items fuel true (skipSpace rest)).map fun (items, rest) => (.array items, rest)
    | '{' :: rest =>
      (members fuel true (skipSpace rest)).map fun (members, rest) => (.object members, rest)
    | 'n' :: 'u' :: 'l' :: 'l' :: rest => some (.null, rest)
    | 't' :: 'r' :: 'u' :: 'e' :: rest => some (.boolean true, rest)
    | 'f' :: 'a' :: 'l' :: 's' :: 'e' :: rest => some (.boolean false, rest)
    | text => number text

/-- Reads the items of an array and its closing bracket, which may come at once
only when no comma came before. -/
def items : Nat → (mayClose : Bool) → List Char → Option (List Json × List Char)
  | 0, _, _ => none
  | fuel + 1, mayClose, text =>
    match mayClose, text with
    | true, ']' :: rest => some ([], rest)
    | _, text => do
      let (item, rest) ← value fuel text
      match skipSpace rest with
      | ',' :: rest =>
        let (items, rest) ← items fuel false (skipSpace rest)
        some (item :: items, rest)
      | ']' :: rest => some ([item], rest)
      | _ => none

/-- Reads the members of an object and its closing bracket. -/
def members : Nat → (mayClose : Bool) → List Char → Option (List (String × Json) × List Char)
  | 0, _, _ => none
  | fuel + 1, mayClose, text =>
    match mayClose, text with
    | true, '}' :: rest => some ([], rest)
    | _, '"' :: rest => do
      let (key, rest) ← stringRest rest
      match skipSpace rest with
      | ':' :: rest =>
        let (value, rest) ← value fuel (skipSpace rest)
        match skipSpace rest with
        | ',' :: rest =>
          let (members, rest) ← members fuel false (skipSpace rest)
          some ((.ofList key, value) :: members, rest)
        | '}' :: rest => some ([(.ofList key, value)], rest)
        | _ => none
      | _ => none
    | _, _ => none

end

/-- Reads a text that holds one value and white space. -/
def parse? (text : String) : Option Json := do
  let characters := text.toList
  let (value, rest) ← value (2 * characters.length + 2) (skipSpace characters)
  if (skipSpace rest).isEmpty then some value else none

end UserRegistry.Json
