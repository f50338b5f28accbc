import UserRegistry.Toml.Number
import UserRegistry.Toml.Table
import UserRegistry.Toml.Text

/-!
# TOML values

Strings, numbers, date-times and booleans, and the arrays and inline tables that
hold them.  An array may run over several lines and hold comments; an inline
table stays on its line.
-/

namespace UserRegistry.Toml

def word? : List Char → Option (Value × List Char)
  | 't' :: 'r' :: 'u' :: 'e' :: rest => some (.boolean true, rest)
  | 'f' :: 'a' :: 'l' :: 's' :: 'e' :: rest => some (.boolean false, rest)
  | 'i' :: 'n' :: 'f' :: rest => some (.float (.infinite false), rest)
  | 'n' :: 'a' :: 'n' :: rest => some (.float .nan, rest)
  | _ => none

/-- Reads a value that is neither an array nor an inline table. -/
def scalar : List Char → Option (Value × List Char)
  | [] => none
  | c :: rest =>
    if c = '"' ∨ c = '\'' then
      (string? (c :: rest)).map fun (text, rest) => (.string (.ofList text), rest)
    else if c = '+' ∨ c = '-' ∨ c.isDigit then numberOrDatetime? (c :: rest)
    else word? (c :: rest)

/-- The inline table of assignments, whose dotted keys may build tables inside it. -/
def inlineTable? (assignments : List (List String × Value)) : Option Value := do
  let items ← Items.assignAll assignments []
  some (.table (entriesOf items))

mutual

/-- Reads a value.  `depth` more arrays and inline tables may be opened, and
`fuel` bounds the calls that are open at once. -/
def value? : (fuel depth : Nat) → List Char → Option (Value × List Char)
  | 0, _, _ => none
  | fuel + 1, depth, text =>
    match text, depth with
    | '[' :: _, 0 => none
    | '{' :: _, 0 => none
    | '[' :: rest, depth + 1 => do
      let (items, rest) ← items? fuel depth (skipGap false rest)
      some (.array items, rest)
    | '{' :: rest, depth + 1 =>
      match skipBlanks rest with
      | '}' :: rest => some (.table [], rest)
      | rest => do
        let (assignments, rest) ← inline? fuel depth rest
        let table ← inlineTable? assignments
        some (table, rest)
    | text, _ => scalar text

/-- Reads the items of an array and its closing bracket; a comma may stand
before the bracket. -/
def items? : (fuel depth : Nat) → List Char → Option (List Value × List Char)
  | 0, _, _ => none
  | fuel + 1, depth, text =>
    match text with
    | ']' :: rest => some ([], rest)
    | text => do
      let (item, rest) ← value? fuel depth text
      match skipGap false rest with
      | ',' :: rest =>
        let (items, rest) ← items? fuel depth (skipGap false rest)
        some (item :: items, rest)
      | ']' :: rest => some ([item], rest)
      | _ => none

/-- Reads the assignments of an inline table and its closing brace. -/
def inline? : (fuel depth : Nat) → List Char → Option (List (List String × Value) × List Char)
  | 0, _, _ => none
  | fuel + 1, depth, text => do
    let (path, rest) ← key? text
    let '=' :: rest := rest | none
    let (value, rest) ← value? fuel depth (skipBlanks rest)
    match skipBlanks rest with
    | ',' :: rest =>
      let (assignments, rest) ← inline? fuel depth rest
      some ((path, value) :: assignments, rest)
    | '}' :: rest => some ([(path, value)], rest)
    | _ => none

end

end UserRegistry.Toml
