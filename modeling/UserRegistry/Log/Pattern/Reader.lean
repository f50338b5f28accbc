import UserRegistry.Log.Pattern
import UserRegistry.Numeral
import UserRegistry.Text.Alphanumeric
import UserRegistry.Text.Blank

/-!
# Reading search patterns

The tree of a written pattern.  Where a pattern is spaced, white space and
comments may stand between its parts: a comment goes from a number sign to the end
of its line.

A directive ends the text of a pattern at a closing brace.  So a repetition with a
count is never complete here, nor is any escape with braces.
-/

namespace UserRegistry.Log.Pattern

/-- A text after the white space and comments at its start. -/
def afterSpacing : (inComment : Bool) → List Char → List Char
  | _, [] => []
  | true, c :: rest => afterSpacing (c ≠ '\n') rest
  | false, c :: rest =>
    if Text.isBlank c then afterSpacing false rest
    else if c = '#' then afterSpacing true rest
    else c :: rest

def skip (spaced : Bool) (text : List Char) : List Char :=
  if spaced then afterSpacing false text else text

/-- The character that comes next, as seen past white space and one number sign.
The comment after the sign is not skipped. -/
def upcoming (spaced : Bool) (text : List Char) : Option Char :=
  if spaced then
    match text.dropWhile Text.isBlank with
    | [] => text.head?
    | '#' :: rest => (rest.find? (! Text.isBlank ·)).or text.head?
    | c :: _ => some c
  else text.head?

def hexadecimal? (spaced : Bool) : (count : Nat) → List Char → Option (List Nat × List Char)
  | 0, text => some ([], text)
  | count + 1, text =>
    match skip spaced text with
    | [] => none
    | c :: rest => do
      let digit ← Numeral.digit? 16 c
      let (digits, rest) ← hexadecimal? spaced count rest
      some (digit :: digits, rest)

/-- Reads the code point of a character in `count` hexadecimal digits. -/
def codePoint? (spaced : Bool) (count : Nat) (text : List Char) :
    Option (Pattern × List Char) := do
  let (digits, rest) ← hexadecimal? spaced count text
  let code := Numeral.ofDigits 16 digits
  if code.isValidChar then some (.letter ⟨code, count = 2⟩, rest) else none

/-- Whether a character stands for itself after a backslash: all of ASCII but
letters, digits and angle brackets. -/
def isEscapable (c : Char) : Bool :=
  c.toNat < 0x80 && !c.isAlphanum && c ≠ '<' && c ≠ '>'

/-- The characters that have letters of their own after a backslash. -/
def escapes : List (Char × Nat) :=
  [('a', 0x7), ('t', 0x9), ('n', 0xA), ('v', 0xB), ('f', 0xC), ('r', 0xD)]

def escape? (spaced : Bool) : List Char → Option (Pattern × List Char)
  | [] => none
  | c :: rest =>
    if c = 'x' then codePoint? spaced 2 rest
    else if c = 'u' then codePoint? spaced 4 rest
    else if c = 'U' then codePoint? spaced 8 rest
    else if c ∈ ['d', 's', 'w'] then some (.shorthand false, rest)
    else if c ∈ ['D', 'S', 'W'] then some (.shorthand true, rest)
    else if c ∈ ['A', 'z'] then some (.edge, rest)
    else if c ∈ ['B', '<', '>'] then some (.wordEdge, rest)
    else if c = 'b' then if rest.head? = some '{' then none else some (.wordEdge, rest)
    else if isEscapable c then some (.letter ⟨c.toNat, false⟩, rest)
    else (escapes.lookup c).map fun code => (.letter ⟨code, false⟩, rest)

def classPart? (spaced : Bool) : List Char → Option (ClassSet × List Char)
  | [] => none
  | '\\' :: rest =>
    match escape? spaced rest with
    | some (.letter found, rest) => some (.letter found, rest)
    | some (.shorthand negated, rest) => some (.shorthand negated, rest)
    | _ => none
  | c :: rest => some (.letter ⟨c.toNat, false⟩, rest)

/-- Reads an item of a class: a part by itself, or two characters in order around
a dash.  A dash before another, or before the closing bracket, makes no range. -/
def classItem? (spaced : Bool) (text : List Char) : Option (ClassSet × List Char) := do
  let (part, rest) ← classPart? spaced text
  match skip spaced rest with
  | [] => none
  | '-' :: rest =>
    if upcoming spaced rest = some ']' ∨ upcoming spaced rest = some '-' then
      some (part, '-' :: rest)
    else
      match part, ← classPart? spaced (skip spaced rest) with
      | .letter first, (.letter last, rest) =>
        if first.code ≤ last.code then some (.range first last, rest) else none
      | _, _ => none
  | rest => some (part, rest)

def classNames : List String :=
  ["alnum", "alpha", "ascii", "blank", "cntrl", "digit", "graph", "lower", "print", "punct",
    "space", "upper", "word", "xdigit"]

/-- Reads a named class after its bracket. -/
def namedClass? : List Char → Option (ClassSet × List Char)
  | ':' :: rest =>
    let negated := rest.head? = some '^'
    let rest := if negated then rest.tail else rest
    let name := rest.takeWhile (· ≠ ':')
    match rest.drop name.length with
    | ':' :: ']' :: rest =>
      if String.ofList name ∈ classNames then some (.named negated, rest) else none
    | _ => none
  | _ => none

def leadingDashes (spaced : Bool) : (fuel : Nat) → List Char → List ClassSet × List Char
  | 0, text => ([], text)
  | fuel + 1, text =>
    match skip spaced text with
    | '-' :: rest =>
      let (dashes, rest) := leadingDashes spaced fuel rest
      (.letter ⟨'-'.toNat, false⟩ :: dashes, rest)
    | rest => ([], rest)

/-- The start of a class after its bracket: whether a caret negates it, and the
dashes or the closing bracket that stand for themselves there. -/
def classStart (spaced : Bool) (text : List Char) : Bool × List ClassSet × List Char :=
  let text := skip spaced text
  let negated := text.head? = some '^'
  let text := if negated then text.tail else text
  match leadingDashes spaced (text.length + 1) text with
  | ([], ']' :: rest) => (negated, [.letter ⟨']'.toNat, false⟩], rest)
  | (dashes, rest) => (negated, dashes, rest)

/-- The set on the left of an operation together with the one on its right. -/
def combined (left : Option (SetOperation × ClassSet)) (right : ClassSet) : ClassSet :=
  match left with
  | none => right
  | some (operation, left) => .operation operation left right

/-- Reads the rest of a class after some items, in reverse order, and after what
stands on the left of the last operation.  `fuel` bounds the number of items. -/
def classRest? (spaced : Bool) : (fuel : Nat) → (left : Option (SetOperation × ClassSet)) →
    (items : List ClassSet) → List Char → Option (ClassSet × List Char)
  | 0, _, _, _ => none
  | fuel + 1, left, items, text =>
    let soFar := combined left (.ofItems items.reverse)
    match skip spaced text with
    | [] => none
    | ']' :: rest => some (soFar, rest)
    | '[' :: rest =>
      match namedClass? rest with
      | some (item, rest) => classRest? spaced fuel left (item :: items) rest
      | none =>
        let (negated, start, rest) := classStart spaced rest
        match classRest? spaced fuel none start.reverse rest with
        | none => none
        | some (content, rest) =>
          classRest? spaced fuel left (.bracket negated content :: items) rest
    | '&' :: '&' :: rest => classRest? spaced fuel (some (.intersection, soFar)) [] rest
    | '-' :: '-' :: rest => classRest? spaced fuel (some (.difference, soFar)) [] rest
    | '~' :: '~' :: rest => classRest? spaced fuel (some (.symmetricDifference, soFar)) [] rest
    | text =>
      match classItem? spaced text with
      | none => none
      | some (item, rest) => classRest? spaced fuel left (item :: items) rest

def class? (spaced : Bool) (text : List Char) : Option (Pattern × List Char) := do
  let (negated, start, rest) := classStart spaced text
  let (content, rest) ← classRest? spaced (text.length + 1) none start.reverse rest
  some (.bracket negated content, rest)

def isGroupName : List Char → Bool
  | [] => false
  | c :: rest =>
    (c = '_' || Text.isAlphabetic c)
      && rest.all fun c => c ∈ ['_', '.', '[', ']'] || Text.isAlphanumeric c

def setting? (c : Char) : Option Setting :=
  [('i', .anyCase), ('m', .manyLines), ('s', .dotAll), ('U', .shortest),
    ('u', .wholeCharacters), ('R', .lineEnds), ('x', .spaced)].lookup c

/-- Reads switches: letters that switch settings on and, after a dash, others that
switch them off.  No letter stands twice, and one follows a dash. -/
def switches? (text : List Char) : Option (List Switch) := do
  let on := text.takeWhile (· ≠ '-')
  let off := text.drop (on.length + 1)
  if ¬ (on ++ off).Nodup ∨ off = [] ∧ on.length < text.length then none
  else
    let on ← on.mapM setting?
    let off ← off.mapM setting?
    some (on.map (·, true) ++ off.map (·, false))

def switched (turned : List Switch) (setting : Setting) (before : Bool) : Bool :=
  (turned.lookup setting).getD before

/-- The start of a group: its name, if it has one, and its switches; or switches
for the rest of the group around it. -/
inductive Opening where
  | group (name : Option (List Char)) (turned : List Switch)
  | switches (turned : List Switch)

/-- Reads the name of a group up to its closing angle bracket. -/
def named? (text : List Char) : Option (Opening × List Char) :=
  let name := text.takeWhile (· ≠ '>')
  match text.drop name.length with
  | [] => none
  | _ :: rest => if isGroupName name then some (.group (some name) [], rest) else none

/-- Reads what follows an opening parenthesis. -/
def opening? : List Char → Option (Opening × List Char)
  | '?' :: 'P' :: '<' :: rest => named? rest
  | '?' :: '<' :: rest => named? rest
  | '?' :: rest => do
    let letters := rest.takeWhile fun c => c ≠ ':' && c ≠ ')'
    let turned ← switches? letters
    match rest.drop letters.length with
    | ':' :: rest => some (.group none turned, rest)
    | ')' :: rest => if letters.isEmpty then none else some (.switches turned, rest)
    | _ => none
  | rest => some (.group none [], rest)

/-- What is being read: the names of all groups so far, the branches of the group
before the present one, and the parts of this one, each in reverse order. -/
structure Progress where
  names : List (List Char)
  branches : List Pattern
  parts : List Pattern

namespace Progress

def push (progress : Progress) (part : Pattern) : Progress :=
  { progress with parts := part :: progress.parts }

def allBranches (progress : Progress) : List Pattern :=
  .ofParts progress.parts.reverse :: progress.branches

def nextBranch (progress : Progress) : Progress :=
  { progress with branches := progress.allBranches, parts := [] }

def pattern (progress : Progress) : Pattern :=
  .ofBranches progress.allBranches.reverse

def repeat? (progress : Progress) : Option Progress :=
  match progress.parts with
  | [] => none
  | part :: parts =>
    if part.isRepeatable then some { progress with parts := .repeated part :: parts } else none

def inner? (progress : Progress) : (name : Option (List Char)) → Option Progress
  | none => some ⟨progress.names, [], []⟩
  | some name =>
    if name ∈ progress.names then none else some ⟨name :: progress.names, [], []⟩

end Progress

/-- Reads the rest of a group, up to its closing parenthesis or the end of the
text.  `fuel` bounds the number of parts. -/
def groupRest? : (fuel : Nat) → (spaced : Bool) → Progress → List Char →
    Option (Progress × List Char)
  | 0, _, _, _ => none
  | fuel + 1, spaced, progress, text =>
    match skip spaced text with
    | [] => some (progress, [])
    | c :: rest =>
      if c = ')' then some (progress, c :: rest)
      else if c = '|' then groupRest? fuel spaced progress.nextBranch rest
      else if c = '(' then
        match opening? (skip spaced rest) with
        | none => none
        | some (.switches turned, rest) =>
          groupRest? fuel (switched turned .spaced spaced) (progress.push (.switches turned)) rest
        | some (.group name turned, rest) =>
          match progress.inner? name with
          | none => none
          | some inner =>
            match groupRest? fuel (switched turned .spaced spaced) inner rest with
            | some (inner, _ :: rest) =>
              groupRest? fuel spaced
                { progress.push (.group turned inner.pattern) with names := inner.names } rest
            | _ => none
      else if c = '?' ∨ c = '*' ∨ c = '+' then
        match progress.repeat? with
        | none => none
        | some progress =>
          groupRest? fuel spaced progress (if rest.head? = some '?' then rest.tail else rest)
      else if c = '{' then none
      else
        let part :=
          if c = '[' then class? spaced rest
          else if c = '\\' then escape? spaced rest
          else if c = '.' then some (.dot, rest)
          else if c = '^' ∨ c = '$' then some (.edge, rest)
          else some (.letter ⟨c.toNat, false⟩, rest)
        match part with
        | none => none
        | some (part, rest) => groupRest? fuel spaced (progress.push part) rest

def read? (text : List Char) : Option Pattern :=
  match groupRest? (text.length + 1) false ⟨[], [], []⟩ text with
  | some (progress, []) => some progress.pattern
  | _ => none

end UserRegistry.Log.Pattern
