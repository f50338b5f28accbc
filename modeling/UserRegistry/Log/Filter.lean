import UserRegistry.Log.Event
import UserRegistry.Log.Pattern.Value
import UserRegistry.Text.Blank

/-!
# Log filters

A filter is a list of directives, each a verbosity for some of the events: those
of all targets that start with a text, or all those with a field of some name.
Of the directives that hold for an event the narrowest decides: the one with the
longest text; of those, one that asks for a field, and of two such the one whose
field comes last by name; of equal ones the last.

A directive may also ask for a span, or for the value of a field of a span.  The
events of the program stand in no span, and so it holds for none of them.
-/

namespace UserRegistry.Log

/-- What a directive asks for besides a target. -/
inductive Condition where
  | always
  | field (name : List Char)
  | span
  deriving DecidableEq

/-- A verbosity for the events of the targets that start with a text and that
meet a condition. -/
structure Directive where
  target : Option (List Char)
  condition : Condition
  verbosity : Nat
  deriving DecidableEq

/-- A filter.  Of the directives that are about an event the narrowest decides. -/
abbrev Filter := List Directive

def lowered (text : List Char) : List Char :=
  text.map Char.toLower

/-- The verbosity that a number denotes; a plus sign and zeros may come first. -/
def numberedVerbosity? (text : List Char) : Option Nat :=
  let digits :=
    match text with
    | '+' :: rest => rest
    | rest => rest
  (Numeral.read? 10 digits).filter (· ≤ 5)

/-- The verbosity that a name denotes, in any case of letters. -/
def namedVerbosity? (text : List Char) : Option Nat :=
  [("off", 0), ("error", 1), ("warn", 2), ("info", 3), ("debug", 4), ("trace", 5)].lookup
    (String.ofList (lowered text))

/-- The verbosity that a text denotes, as a number or by name. -/
def verbosity? (text : List Char) : Option Nat :=
  (numberedVerbosity? text).or (namedVerbosity? text)

/-- Whether a directive may begin with a character. -/
def startsDirective (c : Char) : Bool :=
  Text.isAlphanumeric c || c ∈ ['-', ':', '_', '[']

/-- Why a text is not read as a filter: it is not written as one, or it was to be
cut inside a character, which ends the program. -/
inductive Refusal where
  | invalid
  | fatal
  deriving DecidableEq

/-- What was found, or a refusal if nothing was. -/
def orRefuse {α : Type} (refusal : Refusal) : Option α → Except Refusal α
  | none => .error refusal
  | some found => .ok found

/-- How many bytes a text has in UTF-8. -/
def byteLength : List Char → Nat
  | [] => 0
  | c :: rest => c.utf8Size + byteLength rest

/-- The rest of a text after some of its bytes, unless they end inside a
character. -/
def afterBytes? : Nat → List Char → Option (List Char)
  | 0, text => some text
  | _ + 1, [] => none
  | count + 1, c :: rest =>
    if c.utf8Size ≤ count + 1 then afterBytes? (count + 1 - c.utf8Size) rest else none

/-- So many of the first bytes of a text, unless they end inside a character. -/
def firstBytes? : Nat → List Char → Option (List Char)
  | 0, _ => some []
  | _ + 1, [] => none
  | count + 1, c :: rest =>
    if c.utf8Size ≤ count + 1 then (firstBytes? (count + 1 - c.utf8Size) rest).map (c :: ·)
    else none

/-- What stands in a text after a place. -/
def after (text : List Char) (place : Nat) : Except Refusal (List Char) :=
  orRefuse .fatal (afterBytes? place text)

/-- What stands in a text between two places. -/
def between (text : List Char) (start stop : Nat) : Except Refusal (List Char) := do
  let rest ← after text start
  orRefuse .fatal (firstBytes? (stop - start) rest)

/-- The verbosity after a place of a text; nothing there stands for the highest. -/
def verbosityAfter (text : List Char) (place : Nat) : Except Refusal Nat := do
  let level ← after text place
  if level.isEmpty then .ok 5 else orRefuse .invalid (verbosity? level)

/-- The condition that a text in braces sets: a name of a field, or a name and a
value. -/
def fieldCondition? (text : List Char) : Option Condition :=
  let name := text.takeWhile (· ≠ '=')
  match text.drop name.length with
  | [] => if name.isEmpty then none else some (.field name)
  | _ :: rest => if isFieldValue (rest.takeWhile (· ≠ '=')) then some .span else none

/-- Reads the braces of a condition: the text of a field, which starts at `start`,
and what must follow it, the bracket that closes.  The result is the condition, the
place after the bracket and the rest there. -/
def fieldCondition (whole : List Char) (start : Nat) (rest : List Char) :
    Except Refusal (Condition × Nat × List Char) :=
  let stop := start + byteLength (rest.takeWhile (· ≠ '}'))
  match rest.dropWhile (· ≠ '}') with
  | [] => .error .invalid
  | _ :: rest => do
    let field ← between whole start stop
    let condition ← orRefuse .invalid (fieldCondition? field)
    match rest with
    | ']' :: rest => .ok (condition, stop + 2, rest)
    | _ => .error .invalid

/-- Reads the condition in brackets that follows `place` bytes: the name of a
span, a field in braces, or both.  The result is the condition, the place after
the brackets and the rest there.  The texts in them are taken from `whole`. -/
def condition (whole : List Char) (place : Nat) (rest : List Char) :
    Except Refusal (Condition × Nat × List Char) :=
  let name := rest.takeWhile fun c => c ≠ ']' && c ≠ '{'
  let stop := place + byteLength name
  match rest.drop name.length with
  | [] => .error .invalid
  | bracket :: rest => do
    let span ← between whole place stop
    if bracket = ']' then .ok (.span, stop + 1, rest)
    else
      let (condition, place, rest) ← fieldCondition whole (stop + 1) rest
      .ok (if span.isEmpty then condition else .span, place, rest)

/-- Reads the brackets of a directive and what follows them: nothing, or an equals
sign and a verbosity. -/
def conditional (whole : List Char) (target : Option (List Char)) (place : Nat)
    (rest : List Char) : Except Refusal Directive := do
  let (condition, place, rest) ← condition whole place rest
  match rest with
  | [] => .ok ⟨target, condition, 5⟩
  | sign :: _ =>
    if sign = '=' then
      let verbosity ← verbosityAfter whole (place + 1)
      .ok ⟨target, condition, verbosity⟩
    else .error .invalid

/-- Reads a directive: a verbosity by itself, or a target, a condition or both,
with or without a verbosity after an equals sign; without one all is shown.
The places of the signs are found in the trimmed text but counted from the start
of the untrimmed one. -/
def directive (text : List Char) : Except Refusal Directive :=
  let shown := Text.trimmed text
  if shown.head?.any startsDirective then
    let target := shown.takeWhile fun c => c ≠ '=' && c ≠ '['
    let place := byteLength target
    match shown.drop target.length with
    | [] =>
      match verbosity? text with
      | some verbosity => .ok ⟨none, .always, verbosity⟩
      | none => .ok ⟨some text, .always, 5⟩
    | sign :: rest =>
      if sign = '=' then do
        let target ← between text 0 place
        let verbosity ← verbosityAfter text (place + 1)
        .ok ⟨some target, .always, verbosity⟩
      else if target.isEmpty then conditional text none (place + 1) rest
      else do
        let target ← between text 0 place
        conditional text (some target) (place + 1) rest
  else .error .invalid

/-- The parts of a text between its commas, empty ones included. -/
def splitAtCommas : List Char → List (List Char)
  | [] => [[]]
  | c :: rest =>
    match splitAtCommas rest with
    | [] => [[c]]
    | part :: parts => if c = ',' then [] :: part :: parts else (c :: part) :: parts

/-- Reads a filter, up to the first directive that is refused.  Nothing need stand
between two commas; a text without any directive shows errors only. -/
def Filter.ofText (text : String) : Except Refusal Filter :=
  match (splitAtCommas text.toList).filter (! ·.isEmpty) with
  | [] => .ok [⟨none, .always, 1⟩]
  | parts => parts.mapM directive

namespace Filter

/-- Whether an event has a field of a name; the message is one. -/
def hasField (event : Event) (name : List Char) : Bool :=
  ("message" :: event.fields.map (·.1)).contains (String.ofList name)

/-- Whether a directive is about an event.  No event of a run is inside a span. -/
def holds (event : Event) (directive : Directive) : Bool :=
  (directive.target.all fun start => start.isPrefixOf event.target.toList)
    && match directive.condition with
      | .always => true
      | .field name => hasField event name
      | .span => false

/-- How narrow a directive's target is: none is the widest. -/
def rank (directive : Directive) : Nat :=
  match directive.target with
  | none => 0
  | some start => start.length + 1

/-- Whether a directive with the second condition is at least as narrow as one
with the first. -/
def yields : Condition → Condition → Bool
  | .field first, .field second => !decide (second < first)
  | .field _, _ => false
  | _, _ => true

/-- The narrower of two directives, and the second of two equal ones. -/
def narrower (first second : Directive) : Directive :=
  if rank first < rank second then second
  else if rank second < rank first then first
  else if yields first.condition second.condition then second
  else first

/-- The directive that decides for an event. -/
def deciding? (filter : Filter) (event : Event) : Option Directive :=
  match filter.filter (holds event) with
  | [] => none
  | first :: others => some (others.foldl narrower first)

/-- Whether an event passes; one that no directive is about does not. -/
def shows (filter : Filter) (event : Event) : Bool :=
  match filter.deciding? event with
  | none => false
  | some directive => event.severity.verbosity ≤ directive.verbosity

end Filter

/-- The filter of a configured level, for all targets alike. -/
def Filter.ofLevel (level : String) : Filter :=
  match namedVerbosity? level.toList with
  | some verbosity => [⟨none, .always, verbosity⟩]
  | none => []

/-- The filter of a run: that of the environment if there is one, and otherwise that
of the configured level.  None is chosen if the environment's ends the program. -/
def Filter.choose (environment : Option String) (level : String) : Option Filter :=
  match environment.map Filter.ofText with
  | none => some (.ofLevel level)
  | some (.ok filter) => some filter
  | some (.error .invalid) => some (.ofLevel level)
  | some (.error .fatal) => none

end UserRegistry.Log
