import UserRegistry.Binary64
import UserRegistry.Text.Scalar

/-!
# JSON values

A JSON value with its numbers kept apart as integers and finite floats.  The
members of an object are a list; `Json.Members` holds the operations of a map on
such lists, which keep the keys in increasing order, and `Json.canonical` brings
every object of a value into that order.
-/

namespace UserRegistry

/-- A JSON value.  An integer is never equal to a float, and no float is infinite. -/
inductive Json where
  | null
  | boolean (value : Bool)
  | integer (value : Int)
  | float (value : Finite64)
  | string (text : String)
  | array (items : List Json)
  | object (members : List (String × Json))
  deriving Inhabited

namespace Json

/-- The members of an object. -/
abbrev Members := List (String × Json)

namespace Members

/-- Binds `key` to `value` in members with increasing keys, replacing an earlier
binding. -/
def insert (key : String) (value : Json) : Members → Members
  | [] => [(key, value)]
  | (present, held) :: members =>
    if Text.precedes key present then (key, value) :: (present, held) :: members
    else if key = present then (key, value) :: members
    else (present, held) :: insert key value members

/-- The members without that of a key. -/
def erase (key : String) (members : Members) : Members :=
  members.filter fun member => member.1 ≠ key

def get? (key : String) (members : Members) : Option Json :=
  members.lookup key

/-- Binds all of `entries` in turn, later ones replacing earlier ones. -/
def insertAll (members : Members) (entries : Members) : Members :=
  entries.foldl (fun bound entry => insert entry.1 entry.2 bound) members

/-- The members bound by `entries`, in key order. -/
def ofEntries (entries : Members) : Members :=
  insertAll [] entries

/-- Keys strictly increase in the order of their UTF-8 bytes, so that each is
bound once. -/
def Ordered (members : Members) : Prop :=
  members.Pairwise fun earlier later => Text.precedes earlier.1 later.1

end Members

mutual

/-- The same value with the members of every object in key order, each key bound
once. -/
def canonical : Json → Json
  | .array items => .array (canonicalItems items)
  | .object members => .object (Members.ofEntries (canonicalMembers members))
  | scalar => scalar

def canonicalItems : List Json → List Json
  | [] => []
  | item :: items => item.canonical :: canonicalItems items

def canonicalMembers : List (String × Json) → List (String × Json)
  | [] => []
  | (key, value) :: members => (key, value.canonical) :: canonicalMembers members

end

mutual

/-- Equality of values; floats are compared as numbers, and an integer never
equals a float. -/
def same : Json → Json → Bool
  | .null, .null => true
  | .boolean left, .boolean right => left == right
  | .integer left, .integer right => left == right
  | .float left, .float right => left.sameNumber right
  | .string left, .string right => left == right
  | .array left, .array right => sameItems left right
  | .object left, .object right => sameMembers left right
  | _, _ => false

def sameItems : List Json → List Json → Bool
  | [], [] => true
  | left :: lefts, right :: rights => left.same right && sameItems lefts rights
  | _, _ => false

def sameMembers : List (String × Json) → List (String × Json) → Bool
  | [], [] => true
  | (leftKey, left) :: lefts, (rightKey, right) :: rights =>
    leftKey == rightKey && left.same right && sameMembers lefts rights
  | _, _ => false

end

end Json

end UserRegistry
