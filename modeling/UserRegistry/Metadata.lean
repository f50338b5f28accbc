import UserRegistry.Record.Fields

/-!
# Metadata

Metadata is read from a tree of values and kept in the form of JSON: a date-time
is its text, a float that is not finite is `null`, and the members of every
object are in key order.
-/

namespace UserRegistry

namespace Metadata

/-- Reads a table whose first key is the date-time marker.  The value must be the
text of a date-time; only JSON refuses further entries. -/
def readMarked (format : Format) : Entries → Except ReadError Json
  | [] => .ok (.object [])
  | (_, .string text) :: rest =>
    match Datetime.read text with
    | .error fault => .error (.badDatetime fault)
    | .ok datetime =>
      if format = .json ∧ rest ≠ [] then .error (.surplusEntries (rest.length + 1))
      else .ok (.string datetime.text)
  | (_, other) :: _ => .error (.wrongType (other.found format) .datetimeText)

/-- Whether the first key is the date-time marker. -/
def isMarked (entries : Entries) : Bool :=
  match entries with
  | [] => false
  | (key, _) :: _ => key == datetimeMarker

mutual

/-- Reads a value inside metadata.  A table inside it is taken for a date-time if its
first key is the marker. -/
def readValue (format : Format) : Value → Except ReadError Json
  | .null => .error (.wrongType .null .anyValue)
  | .boolean value => .ok (.boolean value)
  | .integer value =>
    if value < Numeral.signedBound then .ok (.integer value) else .error .integerTooLarge
  | .float (.finite number) => .ok (.float number)
  | .float _ => .ok .null
  | .string text => .ok (.string text)
  | .datetime value => .ok (.string value.text)
  | .array items => (readItems format items).map .array
  | .table entries =>
    if isMarked entries then readMarked format entries
    else (readEntries format entries).map fun members =>
      .object (Json.Members.ofEntries members)

/-- Reads the items of an array, up to the first that is refused. -/
def readItems (format : Format) : List Value → Except ReadError (List Json)
  | [] => .ok []
  | value :: values => do
    let item ← readValue format value
    let items ← readItems format values
    .ok (item :: items)

/-- Reads the entries of a table, up to the first that is refused. -/
def readEntries (format : Format) : List (String × Value) →
    Except ReadError (List (String × Json))
  | [] => .ok []
  | (key, value) :: entries => do
    let member ← readValue format value
    let members ← readEntries format entries
    .ok ((key, member) :: members)

end

/-- Reads metadata.  Its own first key is never taken for the date-time marker. -/
def read (format : Format) : Value → Except ReadError Json.Members
  | .table entries => (readEntries format entries).map Json.Members.ofEntries
  | .datetime value => .ok [(datetimeMarker, .string value.text)]
  | other => .error (.wrongType (other.found format) .map)

end Metadata

end UserRegistry
