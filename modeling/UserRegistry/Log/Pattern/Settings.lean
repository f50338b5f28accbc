import UserRegistry.Log.Pattern.Reader

/-!
# Patterns that can be searched for

What a pattern may hold depends on the settings in force.  A pattern of whole
characters holds no shorthand and no edge of a word, for they would need tables of
letters, and in any case of letters no letter either.  A pattern of bytes must not
match a part of a character: it holds no dot and no class with bytes beyond ASCII.

Switches are in force up to the end of the group that they stand in, also in its
further branches.
-/

namespace UserRegistry.Log

structure Settings where
  anyCase : Bool
  wholeCharacters : Bool

def Settings.after (settings : Settings) (turned : List Switch) : Settings :=
  { anyCase := Pattern.switched turned .anyCase settings.anyCase
    wholeCharacters := Pattern.switched turned .wholeCharacters settings.wholeCharacters }

namespace ClassSet

def admits (settings : Settings) (letter : Letter) : Bool :=
  if settings.wholeCharacters then !settings.anyCase else letter.code < 0x80

mutual

/-- Whether a set holds bytes beyond ASCII, unless it may not stand in a class.  Of
whole characters there is no such byte. -/
def beyondAscii? (settings : Settings) : ClassSet → Option Bool
  | .letter only => if admits settings only then some false else none
  | .range first last =>
    if admits settings first && admits settings last then some false else none
  | .named negated =>
    if settings.wholeCharacters then if settings.anyCase then none else some false
    else some negated
  | .shorthand negated => if settings.wholeCharacters || negated then none else some false
  | .bracket negated content => do
    let beyond ← content.beyondAscii? settings
    if settings.wholeCharacters || beyond = negated then some false else none
  | .union items => beyondAsciiAny? settings items
  | .operation combination left right => do
    let left ← left.beyondAscii? settings
    let right ← right.beyondAscii? settings
    some <| match combination with
      | .intersection => left && right
      | .difference => left && !right
      | .symmetricDifference => left != right

/-- Whether any of some sets holds bytes beyond ASCII, unless one may not stand in
a class. -/
def beyondAsciiAny? (settings : Settings) : List ClassSet → Option Bool
  | [] => some false
  | item :: items => do
    let first ← item.beyondAscii? settings
    let others ← beyondAsciiAny? settings items
    some (first || others)

end

end ClassSet

namespace Pattern

mutual

/-- The settings after a pattern, if it holds only what it may under the settings
before it. -/
def settle? (settings : Settings) : Pattern → Option Settings
  | .empty => some settings
  | .switches turned => some (settings.after turned)
  | .letter only =>
    let refused :=
      if settings.wholeCharacters then settings.anyCase
      else only.mayBeByte && decide (0x80 ≤ only.code)
    if refused then none else some settings
  | .dot => if settings.wholeCharacters then some settings else none
  | .edge => some settings
  | .wordEdge => if settings.wholeCharacters then none else some settings
  | .shorthand negated => if settings.wholeCharacters || negated then none else some settings
  | .bracket negated content =>
    ((ClassSet.bracket negated content).beyondAscii? settings).map fun _ => settings
  | .repeated part => part.settle? settings
  | .group turned body => (body.settle? (settings.after turned)).map fun _ => settings
  | .sequence parts => settleAll? settings parts
  | .alternatives branches => settleAll? settings branches

def settleAll? (settings : Settings) : List Pattern → Option Settings
  | [] => some settings
  | part :: parts => (part.settle? settings).bind fun settings => settleAll? settings parts

end

def nestingLimit : Nat :=
  250

end Pattern

/-- Whether a text is a pattern that can be searched for. -/
def isPattern (text : List Char) : Bool :=
  match Pattern.read? text with
  | none => false
  | some pattern =>
    pattern.nesting ≤ Pattern.nestingLimit && (pattern.settle? ⟨false, true⟩).isSome

end UserRegistry.Log
