import UserRegistry.Metadata

/-!
# Seeds

A seed describes a user to be created.  It is read from a tree of values, of a
configuration or of JSON: as a table, or as an array of its fields in the order
of their declaration.
-/

namespace UserRegistry

/-- A user to be created.  Roles that are not given differ from a list without any only in
how the seed is written. -/
structure Seed where
  username : String
  email : String
  roles : Option (List String)
  metadata : Json.Members

/-- A seed while its entries are read: a username or an email may still be missing. -/
structure Seed.Draft where
  username : Option String := none
  email : Option String := none
  roles : Option (List String) := none
  metadata : Json.Members := []

namespace Seed

/-- Reads the roles of a seed; only JSON has `null`, which means none. -/
def readRoles (format : Format) : Value → Except ReadError (Option (List String))
  | .null => .ok none
  | value => do
    let items ← value.readSequence format
    let roles ← items.mapM (Value.readString format)
    .ok (some roles)

/-- The fields of a seed, in the order of their declaration. -/
def fields (format : Format) : List (Field Draft) :=
  [ { name := "username"
      read := fun value => do
        let text ← value.readString format
        .ok fun draft => { draft with username := some text } },
    { name := "email"
      read := fun value => do
        let text ← value.readString format
        .ok fun draft => { draft with email := some text } },
    { name := "roles"
      read := fun value => do
        let roles ← readRoles format value
        .ok fun draft => { draft with roles := roles } },
    { name := "metadata"
      read := fun value => do
        let members ← Metadata.read format value
        .ok fun draft => { draft with metadata := members } } ]

/-- The seed of a draft that has a username and an email. -/
def Draft.finish (draft : Draft) : Except ReadError Seed :=
  match draft.username, draft.email with
  | none, _ => .error (.missingField "username")
  | some _, none => .error (.missingField "email")
  | some username, some email => .ok ⟨username, email, draft.roles, draft.metadata⟩

/-- Reads a seed from a table.  What is missing is noticed only after all entries were
read. -/
def readTable (format : Format) (entries : Entries) : Except ReadError Seed := do
  let draft ← Field.readEntries (fields format) {} entries
  draft.finish

/-- Reads a seed from an array, of which only JSON demands that it is not too
long. -/
def readArray (format : Format) (items : List Value) : Except ReadError Seed := do
  let draft ← Field.readItems {} (fields format) items
  if items.length < 2 then .error (.fewItems items.length)
  else
    let seed ← draft.finish
    if format = .json ∧ 4 < items.length then .error (.surplusItems items.length)
    else .ok seed

/-- Reads a seed.  A date-time in its place is the table of the marker. -/
def read (format : Format) : Value → Except ReadError Seed
  | .table entries => readTable format entries
  | .array items => readArray format items
  | .datetime value => readTable format [(datetimeMarker, .string value.text)]
  | other => .error (.wrongType (other.found format) (.record "UserSeed"))

end Seed

/-- Reads a JSON value as a seed, members in key order. -/
def Seed.ofJson (value : Json) : Except ReadError Seed :=
  Seed.read .json value.canonical.toValue

end UserRegistry
