import UserRegistry.Toml.Value

/-!
# TOML documents

`Toml.parse?` reads a text as the entries of its root table.  A text is first
read as statements, line by line, and grouped into sections, each a header with
the assignments under it; the sections then build the tables in order.
-/

namespace UserRegistry.Toml

/-- A line of a document: a header, or the assignment of a value to a key. -/
inductive Statement where
  | table (path : List String)
  | element (path : List String)
  | assignment (path : List String) (value : Value)

/-- Reads a statement that starts at the first character. -/
def statement? (fuel : Nat) : List Char → Option (Statement × List Char)
  | '[' :: '[' :: rest => do
    let (path, rest) ← key? rest
    let ']' :: ']' :: rest := rest | none
    some (.element path, rest)
  | '[' :: rest => do
    let (path, rest) ← key? rest
    let ']' :: rest := rest | none
    some (.table path, rest)
  | text => do
    let (path, rest) ← key? text
    let '=' :: rest := rest | none
    let (value, rest) ← value? fuel nestingLimit (skipBlanks rest)
    some (.assignment path value, rest)

/-- Reads the statements of a text, each on lines of its own.  `fuel` bounds the number of
statements and blank lines. -/
def statements? : (fuel : Nat) → List Char → Option (List Statement)
  | 0, _ => none
  | fuel + 1, text =>
    match skipBlanks text with
    | [] => some []
    | '\n' :: rest => statements? fuel rest
    | '#' :: rest => do
      let rest ← lineEnd? ('#' :: rest)
      statements? fuel rest
    | text => do
      let (statement, rest) ← statement? fuel text
      let rest ← lineEnd? rest
      let statements ← statements? fuel rest
      some (statement :: statements)

/-- A header of a table, or of a new element of an array of tables. -/
inductive Header where
  | table (path : List String)
  | element (path : List String)

/-- A header and the assignments under it. -/
structure Section where
  header : Header
  assignments : List (List String × Value)

/-- The assignments before the first header, and the sections. -/
def sections : List Statement → List (List String × Value) × List Section
  | [] => ([], [])
  | .table path :: statements =>
    let (assignments, rest) := sections statements
    ([], ⟨.table path, assignments⟩ :: rest)
  | .element path :: statements =>
    let (assignments, rest) := sections statements
    ([], ⟨.element path, assignments⟩ :: rest)
  | .assignment path value :: statements =>
    let (assignments, rest) := sections statements
    ((path, value) :: assignments, rest)

/-- Opens the table at the end of a header's path. -/
def openAt (path : List String)
    (opening : String → (Items → Option Items) → Items → Option Items)
    (fill : Items → Option Items) (items : Items) : Option Items :=
  match path.getLast? with
  | none => none
  | some name =>
    Items.within .headerPath (fun _ inner => opening name fill inner) .header path.dropLast items

/-- Extends the root table by a section. -/
def Section.build (items : Items) (part : Section) : Option Items :=
  let fill := Items.assignAll part.assignments
  match part.header with
  | .table path => openAt path Items.openTable fill items
  | .element path => openAt path Items.openElement fill items

/-- The root table that statements describe, unless they contradict each other. -/
def build? (statements : List Statement) : Option Items := do
  let (assignments, parts) := sections statements
  let root ← Items.assignAll assignments []
  parts.foldlM Section.build root

/-- Reads a whole document.  The fuel is more than any text of this length needs. -/
def document? (text : List Char) : Option Entries := do
  let text := unifyLineEnds (dropByteOrderMark text)
  let statements ← statements? (2 * text.length + 2) text
  let root ← build? statements
  some (entriesOf root)

/-- Reads a text as the entries of its root table. -/
def parse? (text : String) : Option Entries :=
  document? text.toList

end UserRegistry.Toml
