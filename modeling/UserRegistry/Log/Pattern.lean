/-!
# Search patterns

A search pattern as a tree, and how deep it nests.  Of a pattern only that is kept
which decides whether it can be searched for: which places, letters and classes it
holds, but not how often a part is repeated or what a named class contains.
-/

namespace UserRegistry.Log

/-- A setting that a pattern may switch on or off for its parts. -/
inductive Setting where
  | anyCase
  | manyLines
  | dotAll
  | shortest
  | wholeCharacters
  | lineEnds
  | spaced
  deriving DecidableEq

abbrev Switch := Setting × Bool

/-- A character of a pattern.  One that is written as two hexadecimal digits may
also be a byte. -/
structure Letter where
  code : Nat
  mayBeByte : Bool
  deriving DecidableEq

inductive SetOperation where
  | intersection
  | difference
  | symmetricDifference
  deriving DecidableEq

/-- What stands between the brackets of a class.  A `shorthand` is a class for
digits, spaces or parts of words. -/
inductive ClassSet where
  | letter (letter : Letter)
  | range (first last : Letter)
  | named (negated : Bool)
  | shorthand (negated : Bool)
  | bracket (negated : Bool) (content : ClassSet)
  | union (items : List ClassSet)
  | operation (operation : SetOperation) (left right : ClassSet)

/-- A search pattern.  An `edge` is a place at the end of a line or a text. -/
inductive Pattern where
  | empty
  | switches (switches : List Switch)
  | letter (letter : Letter)
  | dot
  | edge
  | wordEdge
  | shorthand (negated : Bool)
  | bracket (negated : Bool) (content : ClassSet)
  | repeated (part : Pattern)
  | group (switches : List Switch) (body : Pattern)
  | sequence (parts : List Pattern)
  | alternatives (branches : List Pattern)

namespace ClassSet

/-- The set of some items; one item is a set by itself. -/
def ofItems : List ClassSet → ClassSet
  | [item] => item
  | items => .union items

mutual

def nesting : ClassSet → Nat
  | .letter _ => 0
  | .range _ _ => 0
  | .named _ => 0
  | .shorthand _ => 0
  | .bracket _ content => content.nesting + 1
  | .union [] => 0
  | .union (item :: items) => max item.nesting (nestingOfAll items) + 1
  | .operation _ left right => max left.nesting right.nesting + 1

def nestingOfAll : List ClassSet → Nat
  | [] => 0
  | item :: items => max item.nesting (nestingOfAll items)

end

end ClassSet

namespace Pattern

/-- The pattern of some parts one after another; one part is a pattern by itself. -/
def ofParts : List Pattern → Pattern
  | [] => .empty
  | [part] => part
  | parts => .sequence parts

/-- The pattern of some branches of which any may hold; one branch is a pattern by
itself. -/
def ofBranches : List Pattern → Pattern
  | [branch] => branch
  | branches => .alternatives branches

def isRepeatable : Pattern → Bool
  | .empty => false
  | .switches _ => false
  | _ => true

mutual

def nesting : Pattern → Nat
  | .empty => 0
  | .switches _ => 0
  | .letter _ => 0
  | .dot => 0
  | .edge => 0
  | .wordEdge => 0
  | .shorthand _ => 0
  | .bracket _ content => content.nesting + 1
  | .repeated part => part.nesting + 1
  | .group _ body => body.nesting + 1
  | .sequence parts => nestingOfAll parts + 1
  | .alternatives branches => nestingOfAll branches + 1

def nestingOfAll : List Pattern → Nat
  | [] => 0
  | part :: parts => max part.nesting (nestingOfAll parts)

end

end Pattern

end UserRegistry.Log
