import UserRegistry.Value

/-!
# Tables under construction

The rules by which assignments and headers extend tables.  A table remembers how
it came to be, since that decides whether a dotted key or a header may reach
into it; a value, inline tables included, is closed.  New entries go to the end.
-/

namespace UserRegistry.Toml

/-- How a table came to be: by a header of its own, on the way of a header to a
table inside it, or on the way of a dotted key. -/
inductive Origin where
  | header
  | headerPath
  | keyPath
  deriving DecidableEq

/-- What a name is bound to in a table under construction. -/
inductive Item where
  | value (value : Value)
  | table (origin : Origin) (items : List (String × Item))
  | tables (elements : List (List (String × Item)))
  deriving Inhabited

/-- A table under construction. -/
abbrev Items := List (String × Item)

mutual

/-- What an item is once the table is finished; how it came to be is forgotten. -/
def Item.toValue : Item → Value
  | .value value => value
  | .table _ items => .table (entriesOf items)
  | .tables elements => .array (tablesOf elements)

def entriesOf : List (String × Item) → List (String × Value)
  | [] => []
  | (name, item) :: items => (name, item.toValue) :: entriesOf items

def tablesOf : List (List (String × Item)) → List Value
  | [] => []
  | items :: elements => .table (entriesOf items) :: tablesOf elements

end

namespace Items

/-- Replaces what `name` is bound to, keeping its place. -/
def replace (name : String) (item : Item) (items : Items) : Items :=
  items.map fun binding => if binding.1 = name then (name, item) else binding

def remove (name : String) (items : Items) : Items :=
  items.filter fun binding => binding.1 ≠ name

/-- Changes the table at the end of `path`.  Tables missing on the way are added
with the origin `way`; an array of tables is entered at its last element.  A
dotted key does not enter a table that has a header.  `change` is told the
origin of the table it changes. -/
def within (way : Origin) (change : Origin → Items → Option Items) (origin : Origin) :
    List String → Items → Option Items
  | [], items => change origin items
  | name :: path, items =>
    match items.lookup name with
    | none => do
      let inner ← within way change way path []
      some (items ++ [(name, .table way inner)])
    | some (.value _) => none
    | some (.table inside inner) =>
      if way = .keyPath ∧ inside = .header then none
      else do
        let inner ← within way change inside path inner
        some (replace name (.table inside inner) items)
    | some (.tables elements) =>
      match elements.getLast? with
      | none => none
      | some last => do
        let last ← within way change .header path last
        some (replace name (.tables (elements.dropLast ++ [last])) items)

/-- Binds a name that must be free. -/
def add (name : String) (item : Item) (items : Items) : Option Items :=
  if (items.lookup name).isSome then none else some (items ++ [(name, item)])

/-- Binds the last part of a key to a value.  The table that holds a dotted key's
last part must itself have come from dotted keys. -/
def assign (path : List String) (value : Value) (items : Items) : Option Items :=
  match path.getLast? with
  | none => none
  | some name =>
    let way := path.dropLast
    within .keyPath
      (fun origin inner =>
        if way.isEmpty = decide (origin = .keyPath) then none else add name (.value value) inner)
      .header way items

def assignAll (assignments : List (List String × Value)) (items : Items) : Option Items :=
  assignments.foldlM (fun items (path, value) => assign path value items) items

/-- Opens the table of a header and fills it.  A table that headers reached into
before keeps its entries but moves to the end. -/
def openTable (name : String) (fill : Items → Option Items) (items : Items) : Option Items :=
  match items.lookup name with
  | none => do
    let inner ← fill []
    some (items ++ [(name, .table .header inner)])
  | some (.table .headerPath inner) => do
    let inner ← fill inner
    some (remove name items ++ [(name, .table .header inner)])
  | some _ => none

/-- Adds an element to an array of tables and fills it; the first one makes the array. -/
def openElement (name : String) (fill : Items → Option Items) (items : Items) : Option Items := do
  let element ← fill []
  match items.lookup name with
  | none => some (items ++ [(name, .tables [element])])
  | some (.tables elements) => some (replace name (.tables (elements ++ [element])) items)
  | some _ => none

end Items

end UserRegistry.Toml
