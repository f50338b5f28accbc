import UserRegistry.Binary64.Shortest
import UserRegistry.Json
import UserRegistry.Toml.Text

/-!
# Writing TOML values

The canonical text of metadata as a TOML value: basic strings with every control
character escaped, arrays and inline tables on one line, keys always quoted.
`null` has no text of its own and is written as `nan`, which reads back as
`null`.
-/

namespace UserRegistry.Toml

def escaped (c : Char) : List Char :=
  if c = '"' then ['\\', '"']
  else if c = '\\' then ['\\', '\\']
  else if c.toNat < 0x20 ∨ c.toNat = 0x7F then
    ['\\', 'u', '0', '0', (c.toNat / 16).digitChar, (c.toNat % 16).digitChar]
  else [c]

/-- A basic string between its quotes. -/
def quoted (text : String) : List Char :=
  '"' :: text.toList.flatMap escaped ++ ['"']

mutual

/-- The text of a value on one line. -/
def written : Json → List Char
  | .null => "nan".toList
  | .boolean true => "true".toList
  | .boolean false => "false".toList
  | .integer value => Numeral.signed value
  | .float value => value.written .plain
  | .string text => quoted text
  | .array [] => ['[', ']']
  | .array (item :: items) => '[' :: written item ++ writtenItems items ++ [']']
  | .object [] => ['{', '}']
  | .object ((key, value) :: members) =>
    '{' :: quoted key ++ ' ' :: '=' :: ' ' :: written value ++ writtenMembers members ++ ['}']

/-- The items of an array after the first, each after a comma. -/
def writtenItems : List Json → List Char
  | [] => []
  | item :: items => ',' :: ' ' :: written item ++ writtenItems items

/-- The members of an object after the first, each after a comma. -/
def writtenMembers : List (String × Json) → List Char
  | [] => []
  | (key, value) :: members =>
    ',' :: ' ' :: quoted key ++ ' ' :: '=' :: ' ' :: written value ++ writtenMembers members

end

/-- A key, an equals sign and a value on a line of their own. -/
def assignment (key value : List Char) : List Char :=
  key ++ ' ' :: '=' :: ' ' :: value ++ ['\n']

/-- The header of a table on a line of its own. -/
def header (name : String) : List Char :=
  '[' :: name.toList ++ [']', '\n']

/-- The header of an element of an array of tables on a line of its own. -/
def elementHeader (name : String) : List Char :=
  '[' :: '[' :: name.toList ++ [']', ']', '\n']

end UserRegistry.Toml
