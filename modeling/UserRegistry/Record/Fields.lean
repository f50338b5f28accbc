import UserRegistry.Record.Error

/-!
# Reading records

A record is read from a table, entry by entry in the order of the table, or from
an array that lists the fields in the order of their declaration.  Either way
the first refusal is final.  An entry that belongs to no field is passed over
whatever its value is.
-/

namespace UserRegistry

/-- The key under which a date-time is a table of one entry. -/
def datetimeMarker : String :=
  "$__toml_private_datetime"

/-- A field of a record: its name, and how a value changes the record. -/
structure Field (Record : Type) where
  name : String
  read : Value → Except ReadError (Record → Record)

namespace Field

variable {Record : Type}

/-- Reads one entry into a record, by the field of its name if there is one. -/
def readEntry (fields : List (Field Record)) (record : Record) (entry : String × Value) :
    Except ReadError Record :=
  match fields.find? fun field => field.name = entry.1 with
  | none => .ok record
  | some field => do
    let set ← field.read entry.2
    .ok (set record)

/-- Reads the entries of a table in turn, up to the first that is refused. -/
def readEntries (fields : List (Field Record)) (record : Record) (entries : Entries) :
    Except ReadError Record :=
  entries.foldlM (readEntry fields) record

/-- Reads the items of an array as the fields in turn; what is left over of
either list is not looked at. -/
def readItems (record : Record) : List (Field Record) → List Value → Except ReadError Record
  | field :: fields, item :: items => do
    let set ← field.read item
    readItems (set record) fields items
  | _, _ => .ok record

/-- Reads a record whose fields all have defaults, which `initial` holds. -/
def readRecord (name : String) (fields : List (Field Record)) (initial : Record) :
    Value → Except ReadError Record
  | .table entries => readEntries fields initial entries
  | .array items => readItems initial fields items
  | .datetime value => readEntries fields initial [(datetimeMarker, .string value.text)]
  | other => .error (.wrongType (other.found .toml) (.record name))

end Field

namespace Value

def readString (format : Format) : Value → Except ReadError String
  | .string text => .ok text
  | other => .error (.wrongType (other.found format) .string)

def readBoolean (format : Format) : Value → Except ReadError Bool
  | .boolean value => .ok value
  | other => .error (.wrongType (other.found format) .boolean)

/-- Reads a size, which is not negative. -/
def readSize (format : Format) : Value → Except ReadError Nat
  | .integer (.ofNat value) => .ok value
  | .integer value => .error (.negativeSize value)
  | other => .error (.wrongType (other.found format) .size)

/-- The items of an array; nothing else is read as a sequence. -/
def readSequence (format : Format) : Value → Except ReadError (List Value)
  | .array items => .ok items
  | other => .error (.wrongType (other.found format) .sequence)

end Value

end UserRegistry
