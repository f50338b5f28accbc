import UserRegistry.Datetime.Diagnosis
import UserRegistry.Json.Printer
import UserRegistry.Text.Quoted
import UserRegistry.Value

/-!
# Why a value is no record

The causes for which a tree of values is refused when it is read as a record,
and the message of each.
-/

namespace UserRegistry

/-- The notation that a tree of values was written in.  The two differ in the
surplus items and entries they tolerate and in how a message shows a float:
positionally, or as JSON writes it. -/
inductive Format where
  | toml
  | json
  deriving DecidableEq

/-- What stands where something else was expected. -/
inductive Found where
  | null
  | boolean (value : Bool)
  | integer (value : Int)
  | float (value : Binary64) (format : Format)
  | string (text : String)
  | sequence
  | map
  deriving DecidableEq

/-- What was expected in the place of a value. -/
inductive Expected where
  | string
  | boolean
  | size
  | sequence
  | map
  | record (name : String)
  | anyValue
  | datetimeText
  deriving DecidableEq

/-- Why a value is no record.  Lengths are those of the array or table that was read. -/
inductive ReadError where
  | missingField (name : String)
  | wrongType (found : Found) (expected : Expected)
  | negativeSize (value : Int)
  | fewItems (count : Nat)
  | surplusItems (count : Nat)
  | surplusEntries (count : Nat)
  | integerTooLarge
  | badDatetime (fault : Datetime.Fault)
  deriving DecidableEq

/-- How a message shows a float; JSON has none that is not finite. -/
def Binary64.shown (format : Format) : Binary64 → String
  | .nan => "NaN"
  | .infinite false => "inf"
  | .infinite true => "-inf"
  | .finite number =>
    match format with
    | .toml => String.ofList (number.written .plain)
    | .json => String.ofList (number.written Json.floatLayout)

/-- The kind of a value; a date-time counts as the map that stands for it. -/
def Value.found (format : Format) : Value → Found
  | .null => .null
  | .boolean value => .boolean value
  | .integer value => .integer value
  | .float value => .float value format
  | .string text => .string text
  | .datetime _ => .map
  | .array _ => .sequence
  | .table _ => .map

/-- How a message names what was found; a text is quoted in it. -/
def Found.phrase : Found → String
  | .null => "null"
  | .boolean value => String.join ["boolean `", if value then "true" else "false", "`"]
  | .integer value => String.join ["integer `", String.ofList (Numeral.signed value), "`"]
  | .float value format => String.join ["floating point `", value.shown format, "`"]
  | .string text => "string " ++ Text.quoted text
  | .sequence => "sequence"
  | .map => "map"

def Expected.phrase : Expected → String
  | .string => "a string"
  | .boolean => "a boolean"
  | .size => "usize"
  | .sequence => "a sequence"
  | .map => "a map"
  | .record name => "struct " ++ name
  | .anyValue => "any valid TOML value"
  | .datetimeText => "string containing a datetime"

def shownNat (n : Nat) : String :=
  String.ofList (Numeral.decimal n)

/-- The message of a refusal, without the place in the text. -/
def ReadError.message : ReadError → String
  | .missingField name => String.join ["missing field `", name, "`"]
  | .wrongType found expected =>
    String.join ["invalid type: ", found.phrase, ", expected ", expected.phrase]
  | .negativeSize value =>
    String.join
      ["invalid value: integer `", String.ofList (Numeral.signed value), "`, expected usize"]
  | .fewItems count =>
    String.join ["invalid length ", shownNat count, ", expected struct UserSeed with 4 elements"]
  | .surplusItems count =>
    String.join ["invalid length ", shownNat count, ", expected fewer elements in array"]
  | .surplusEntries count =>
    String.join ["invalid length ", shownNat count, ", expected fewer elements in map"]
  | .integerTooLarge => "u64 value was too large"
  | .badDatetime fault => fault.message

end UserRegistry
