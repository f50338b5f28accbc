import UserRegistry.Binary64.Shortest
import UserRegistry.Json

/-!
# JSON text

`Json.written` prints a value on one line or indented by two spaces a level.
Both forms differ only in white space between tokens.
-/

namespace UserRegistry.Json

/-- Floats stand positionally from `0.00001` up to sixteen digits before the
point, and with a signed exponent elsewhere. -/
def floatLayout : Layout where
  positional point := -4 ≤ point && point ≤ 16
  plus := ['+']

/-- A character inside a string: quotes, backslashes and controls are escaped. -/
def escaped (c : Char) : List Char :=
  if c = '"' then ['\\', '"']
  else if c = '\\' then ['\\', '\\']
  else if c = '\x08' then ['\\', 'b']
  else if c = '\t' then ['\\', 't']
  else if c = '\n' then ['\\', 'n']
  else if c = '\x0c' then ['\\', 'f']
  else if c = '\r' then ['\\', 'r']
  else if c.toNat < 0x20 then
    ['\\', 'u', '0', '0', (c.toNat / 16).digitChar, (c.toNat % 16).digitChar]
  else [c]

/-- A string between its quotes. -/
def quoted (text : List Char) : List Char :=
  '"' :: text.flatMap escaped ++ ['"']

/-- How tokens are spaced: on one line, or one item a line. -/
inductive Spacing where
  | compact
  | pretty
  deriving DecidableEq

/-- What stands before an item at `depth` and before the bracket that closes. -/
def Spacing.lineBreak (depth : Nat) : Spacing → List Char
  | .compact => []
  | .pretty => '\n' :: List.replicate (2 * depth) ' '

def Spacing.colon : Spacing → List Char
  | .compact => [':']
  | .pretty => [':', ' ']

mutual

/-- The text of a value whose opening bracket stands at `depth`. -/
def written (spacing : Spacing) (depth : Nat) : Json → List Char
  | .null => "null".toList
  | .boolean true => "true".toList
  | .boolean false => "false".toList
  | .integer value => Numeral.signed value
  | .float value => value.written floatLayout
  | .string text => quoted text.toList
  | .array [] => ['[', ']']
  | .array (item :: items) =>
    '[' :: spacing.lineBreak (depth + 1) ++ item.written spacing (depth + 1)
      ++ writtenItems spacing (depth + 1) items ++ spacing.lineBreak depth ++ [']']
  | .object [] => ['{', '}']
  | .object ((key, value) :: members) =>
    '{' :: spacing.lineBreak (depth + 1) ++ quoted key.toList ++ spacing.colon
      ++ value.written spacing (depth + 1)
      ++ writtenMembers spacing (depth + 1) members ++ spacing.lineBreak depth ++ ['}']

/-- The items of an array after the first, each after a comma. -/
def writtenItems (spacing : Spacing) (depth : Nat) : List Json → List Char
  | [] => []
  | item :: items =>
    ',' :: spacing.lineBreak depth ++ item.written spacing depth
      ++ writtenItems spacing depth items

/-- The members of an object after the first, each after a comma. -/
def writtenMembers (spacing : Spacing) (depth : Nat) : List (String × Json) → List Char
  | [] => []
  | (key, value) :: members =>
    ',' :: spacing.lineBreak depth ++ quoted key.toList ++ spacing.colon
      ++ value.written spacing depth ++ writtenMembers spacing depth members

end

/-- The text of a value on one line. -/
def compact (value : Json) : String :=
  String.ofList (value.written .compact 0)

/-- The text of a value with one item a line. -/
def pretty (value : Json) : String :=
  String.ofList (value.written .pretty 0)

end UserRegistry.Json
