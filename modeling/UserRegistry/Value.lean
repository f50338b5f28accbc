import UserRegistry.Datetime
import UserRegistry.Json

/-!
# Value trees

What a configuration text or a JSON seed holds before it is read as records:
scalars, arrays and tables.  The entries of a table are a list in the order in
which they are read.  Configuration texts give no `null`, and JSON gives no
`datetime`; `Json.toValue` is the tree of a JSON value.
-/

namespace UserRegistry

/-- A value of either notation.  A date-time is kept as such until something reads it as a
table. -/
inductive Value where
  | null
  | boolean (value : Bool)
  | integer (value : Int)
  | float (value : Binary64)
  | string (text : String)
  | datetime (value : Datetime)
  | array (items : List Value)
  | table (entries : List (String × Value))
  deriving Inhabited

/-- The entries of a table, in the order in which they are read. -/
abbrev Entries := List (String × Value)

mutual

/-- A JSON value as a tree; members stay in their order. -/
def Json.toValue : Json → Value
  | .null => .null
  | .boolean value => .boolean value
  | .integer value => .integer value
  | .float value => .float (.finite value)
  | .string text => .string text
  | .array items => .array (Json.toValues items)
  | .object members => .table (Json.toEntries members)

def Json.toValues : List Json → List Value
  | [] => []
  | item :: items => item.toValue :: Json.toValues items

def Json.toEntries : List (String × Json) → List (String × Value)
  | [] => []
  | (key, value) :: members => (key, value.toValue) :: Json.toEntries members

end

end UserRegistry
