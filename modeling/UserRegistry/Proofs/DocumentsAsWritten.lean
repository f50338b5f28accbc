import UserRegistry.Proofs.StringsAsWritten
import UserRegistry.Toml.Document

/-!
# Values and documents as they are written

Arrays, inline tables and statements are read by the same steps from a written text as
from a unified one.  Each step is given the readers of the parts, and reads alike if
they do, so that the two readers of whole documents differ in nothing but what they
take for a line end.
-/

namespace UserRegistry.Toml

/-! ## Scalars -/

def AsWritten.scalar : Reader Value
  | [] => none
  | c :: rest =>
    if c = '"' ∨ c = '\'' then
      (AsWritten.string? (c :: rest)).map fun (text, rest) => (.string (.ofList text), rest)
    else unquoted (c :: rest)

theorem alike_scalar : ReadsAlike AsWritten.scalar scalar := by
  refine .ofClass (fun c => c = '"' ∨ c = '\'') (by decide) (by decide) ?_ ?_
    (alike_string?.map (f := fun content => Value.string (.ofList content))) inLine_unquoted
  · rintro text ⟨c, first, quote⟩
    obtain ⟨rest, rfl⟩ := List.head?_eq_some_iff.mp first
    exact ⟨if_pos quote, if_pos quote⟩
  · intro text other
    cases text with
    | nil => exact ⟨rfl, rfl⟩
    | cons c rest =>
        have noQuote : ¬ (c = '"' ∨ c = '\'') := fun quote => other ⟨c, rfl, quote⟩
        exact ⟨if_neg noQuote, if_neg noQuote⟩

/-! ## The steps of the readers -/

/-- Reads a value where no array and no inline table may be opened. -/
def closedValue (scalar : Reader Value) : Reader Value
  | '[' :: _ => none
  | '{' :: _ => none
  | text => scalar text

def filledTable (inline : Reader (List (List String × Value))) : Reader Value := fun text => do
  let (assignments, rest) ← inline text
  let table ← inlineTable? assignments
  some (table, rest)

/-- Reads an inline table behind its brace and blanks. -/
def tableOf (inline : Reader (List (List String × Value))) : Reader Value
  | '}' :: rest => some (.table [], rest)
  | text => filledTable inline text

/-- Reads an array behind its bracket. -/
def arrayOf (gap : List Char → List Char) (items : Reader (List Value)) : Reader Value :=
  fun text => do
    let (items, rest) ← items (gap text)
    some (.array items, rest)

def valueOf (gap : List Char → List Char) (scalar : Reader Value) (items : Reader (List Value))
    (inline : Reader (List (List String × Value))) : Reader Value
  | '[' :: rest => arrayOf gap items rest
  | '{' :: rest => tableOf inline (skipBlanks rest)
  | text => scalar text

/-- Reads the items of an array behind a comma. -/
def laterItems (gap : List Char → List Char) (items : Reader (List Value)) (item : Value) :
    Reader (List Value) := fun text => do
  let (items, rest) ← items (gap text)
  some (item :: items, rest)

/-- Reads the items of an array behind one of them and a gap. -/
def moreItems (gap : List Char → List Char) (items : Reader (List Value)) (item : Value) :
    Reader (List Value)
  | ',' :: rest => laterItems gap items item rest
  | ']' :: rest => some ([item], rest)
  | _ => none

def firstItems (gap : List Char → List Char) (value : Reader Value)
    (items : Reader (List Value)) : Reader (List Value) := fun text => do
  let (item, rest) ← value text
  moreItems gap items item (gap rest)

def itemsOf (gap : List Char → List Char) (value : Reader Value) (items : Reader (List Value)) :
    Reader (List Value)
  | ']' :: rest => some ([], rest)
  | text => firstItems gap value items text

/-- Reads a key, an equals sign and a value. -/
def bindingOf (value : Reader Value) : Reader (List String × Value) := fun text => do
  let (path, rest) ← key? text
  let '=' :: rest := rest | none
  let (value, rest) ← value (skipBlanks rest)
  some ((path, value), rest)

def laterBindings (inline : Reader (List (List String × Value)))
    (binding : List String × Value) : Reader (List (List String × Value)) := fun text => do
  let (assignments, rest) ← inline text
  some (binding :: assignments, rest)

/-- Reads the assignments of an inline table behind one of them and blanks. -/
def moreBindings (inline : Reader (List (List String × Value)))
    (binding : List String × Value) : Reader (List (List String × Value))
  | ',' :: rest => laterBindings inline binding rest
  | '}' :: rest => some ([binding], rest)
  | _ => none

def bindingsOf (value : Reader Value) (inline : Reader (List (List String × Value))) :
    Reader (List (List String × Value)) := fun text => do
  let (binding, rest) ← bindingOf value text
  moreBindings inline binding (skipBlanks rest)

/-- Reads the path of a header and the brackets that close it. -/
def headerOf (closing : List Char) : Reader (List String) := fun text => do
  let (path, rest) ← key? text
  if closing <+: rest then some (path, rest.drop closing.length) else none

def assignmentOf (value : Reader Value) : Reader Statement := fun text => do
  let (binding, rest) ← bindingOf value text
  some (.assignment binding.1 binding.2, rest)

/-- Reads a statement that opens no element of an array of tables. -/
def plainStatement (value : Reader Value) : Reader Statement
  | '[' :: rest => (headerOf [']'] rest).map fun (path, rest) => (.table path, rest)
  | text => assignmentOf value text

def statementOf (value : Reader Value) : Reader Statement
  | '[' :: '[' :: rest => (headerOf [']', ']'] rest).map fun (path, rest) => (.element path, rest)
  | text => plainStatement value text

def lineEndOf (newline : List Char → Option (List Char)) (text : List Char) :
    Option (List Char) :=
  let rest := skipComment (skipBlanks text)
  if rest.isEmpty then some [] else newline rest

/-- Reads the statements of a text, given how the first one and those behind its line are
read. -/
def statementsOf (newline : List Char → Option (List Char)) (statement : Reader Statement)
    (statements : List Char → Option (List Statement)) (text : List Char) :
    Option (List Statement) :=
  let text := skipBlanks text
  if text.isEmpty then some []
  else if let some rest := newline text then statements rest
  else if ['#'] <+: text then (lineEndOf newline text).bind statements
  else do
    let (statement, rest) ← statement text
    let rest ← lineEndOf newline rest
    let statements ← statements rest
    some (statement :: statements)

/-! ## Documents as they are written -/

namespace AsWritten

mutual

def value? : (fuel depth : Nat) → Reader Value
  | 0, _ => fun _ => none
  | _ + 1, 0 => closedValue scalar
  | fuel + 1, depth + 1 =>
    valueOf (skipGap false) scalar (items? fuel depth) (inline? fuel depth)

def items? : (fuel depth : Nat) → Reader (List Value)
  | 0, _ => fun _ => none
  | fuel + 1, depth => itemsOf (skipGap false) (value? fuel depth) (items? fuel depth)

def inline? : (fuel depth : Nat) → Reader (List (List String × Value))
  | 0, _ => fun _ => none
  | fuel + 1, depth => bindingsOf (value? fuel depth) (inline? fuel depth)

end

def statement? (fuel : Nat) : Reader Statement :=
  statementOf (value? fuel nestingLimit)

def statements? : (fuel : Nat) → List Char → Option (List Statement)
  | 0 => fun _ => none
  | fuel + 1 => statementsOf newline? (statement? fuel) (statements? fuel)

/-- Reads a text whose line ends have either spelling. -/
def document? (text : List Char) : Option Entries := do
  let text := dropByteOrderMark text
  let statements ← statements? (2 * text.length + 2) text
  let root ← build? statements
  some (entriesOf root)

end AsWritten

/-! ## The readers of unified text take these steps -/

theorem value?_zero (fuel : Nat) : value? (fuel + 1) 0 = closedValue scalar := by
  funext text
  unfold value? closedValue
  split <;> simp_all

theorem value?_succ (fuel depth : Nat) :
    value? (fuel + 1) (depth + 1) =
      valueOf (skipGap false) scalar (items? fuel depth) (inline? fuel depth) := by
  funext text
  unfold value?
  split
  · contradiction
  · contradiction
  · rename_i equality
    cases equality
    rfl
  · rename_i equality
    cases equality
    rfl
  · unfold valueOf
    split <;> simp_all

theorem items?_succ (fuel depth : Nat) :
    items? (fuel + 1) depth = itemsOf (skipGap false) (value? fuel depth) (items? fuel depth) := by
  funext text
  rw [items?.eq_def, itemsOf.eq_def]
  rfl

/-- What is done with a binding may be done as soon as its value is read. -/
theorem bindingOf_bind {α : Type} (value : Reader Value)
    (next : (List String × Value) × List Char → Option α) (text : List Char) :
    (bindingOf value text).bind next = (do
      let (path, rest) ← key? text
      let '=' :: rest := rest | none
      let (value, rest) ← value (skipBlanks rest)
      next ((path, value), rest)) := by
  rw [bindingOf]
  rcases key? text with _ | ⟨path, rest⟩
  · rfl
  simp only [Option.bind_eq_bind, Option.bind_some]
  split
  · rename_i behind
    cases value (skipBlanks behind) <;> rfl
  · rfl

theorem inline?_succ (fuel depth : Nat) :
    inline? (fuel + 1) depth = bindingsOf (value? fuel depth) (inline? fuel depth) := by
  funext text
  rw [inline?, bindingsOf]
  exact (bindingOf_bind (value? fuel depth) (fun (binding, rest) =>
    moreBindings (inline? fuel depth) binding (skipBlanks rest)) text).symm

theorem statement?_eq (fuel : Nat) :
    statement? fuel = statementOf (value? fuel nestingLimit) := by
  funext text
  unfold statement?
  split
  · rename_i rest
    rw [statementOf, headerOf]
    rcases key? rest with _ | ⟨path, rest⟩
    · rfl
    simp only [Option.bind_eq_bind, Option.bind_some]
    split
    · rfl
    · rename_i free
      rw [if_neg]
      · rfl
      · rintro ⟨behind, rfl⟩
        exact free behind rfl
  · rename_i rest oneBracket
    rw [statementOf, plainStatement, headerOf]
    · rcases key? rest with _ | ⟨path, rest⟩
      · rfl
      simp only [Option.bind_eq_bind, Option.bind_some]
      split
      · rfl
      · rename_i free
        rw [if_neg]
        · rfl
        · rintro ⟨behind, rfl⟩
          exact free behind rfl
    · intro behind equality
      exact oneBracket behind (List.cons.inj equality).2
  · rename_i noBrackets noBracket
    rw [statementOf, plainStatement]
    · exact (bindingOf_bind (value? fuel nestingLimit) (fun (binding, rest) =>
        some (Statement.assignment binding.1 binding.2, rest)) text).symm
    · exact noBracket
    · exact noBrackets

theorem lineEnd?_eq (text : List Char) : lineEnd? text = lineEndOf lineFeed? text := by
  unfold lineEnd? lineEndOf
  split
  · rename_i equality
    simp [equality]
  · rename_i rest equality
    simp [equality, lineFeed?]
  · rename_i nonempty noLineFeed
    have solid : skipComment (skipBlanks text) ≠ [] := nonempty
    simp [solid, lineFeed?_eq_none noLineFeed]

theorem statements?_succ (fuel : Nat) :
    statements? (fuel + 1) = statementsOf lineFeed? (statement? fuel) (statements? fuel) := by
  funext text
  rw [statements?, statementsOf]
  split
  · rename_i equality
    simp [equality]
  · rename_i rest equality
    simp [equality, lineFeed?]
  · rename_i rest equality
    simp [equality, lineFeed?, lineEnd?_eq]
  · rename_i nonempty noLineFeed noComment
    have solid : skipBlanks text ≠ [] := nonempty
    have noHash : ¬ ['#'] <+: skipBlanks text := by
      rintro ⟨rest, equality⟩
      exact noComment rest equality.symm
    simp [solid, lineFeed?_eq_none noLineFeed, noHash, lineEnd?_eq]

/-! ## Each step keeps both spellings alike -/

section Steps

variable {gap writtenGap : List Char → List Char} {scalar writtenScalar : Reader Value}
  {value writtenValue : Reader Value} {items writtenItems : Reader (List Value)}
  {inline writtenInline : Reader (List (List String × Value))}

theorem alike_closedValue (scalars : ReadsAlike writtenScalar scalar) :
    ReadsAlike (closedValue writtenScalar) (closedValue scalar) := by
  have elsewhere : ∀ scalar text, (∀ word ∈ [['['], ['{']], ¬ word <+: text) →
      closedValue scalar text = scalar text := by
    intro scalar text free
    unfold closedValue
    split <;> simp_all
  refine .ofWords [['['], ['{']] (by decide) ?_
    (fun text free => ⟨elsewhere _ text free, elsewhere _ text free⟩) scalars
  exact List.forall_mem_cons.mpr ⟨.nothing, List.forall_mem_singleton.mpr .nothing⟩

theorem alike_filledTable (tables : ReadsAlike writtenInline inline) :
    ReadsAlike (filledTable writtenInline) (filledTable inline) :=
  .bind tables fun _ => .given _ fun table => .result table

theorem alike_tableOf (tables : ReadsAlike writtenInline inline) :
    ReadsAlike (tableOf writtenInline) (tableOf inline) := by
  have elsewhere : ∀ inline text, ¬ ['}'] <+: text →
      tableOf inline text = filledTable inline text := by
    intro inline text free
    unfold tableOf
    split <;> simp_all
  have empty : InLine fun rest => some (Value.table [], rest) := .result _
  exact .ofWord ['}'] (by decide) empty
    (fun text free => ⟨elsewhere _ text free, elsewhere _ text free⟩) (alike_filledTable tables)

theorem alike_arrayOf (gaps : SkipsAlike writtenGap gap) (values : ReadsAlike writtenItems items) :
    ReadsAlike (arrayOf writtenGap writtenItems) (arrayOf gap items) :=
  .bind (.after gaps values) fun items => .result (Value.array items)

theorem alike_valueOf (gaps : SkipsAlike writtenGap gap)
    (scalars : ReadsAlike writtenScalar scalar) (values : ReadsAlike writtenItems items)
    (tables : ReadsAlike writtenInline inline) :
    ReadsAlike (valueOf writtenGap writtenScalar writtenItems writtenInline)
      (valueOf gap scalar items inline) := by
  have elsewhere : ∀ gap scalar items inline text, (∀ word ∈ [['['], ['{']], ¬ word <+: text) →
      valueOf gap scalar items inline text = scalar text := by
    intro gap scalar items inline text free
    unfold valueOf
    split <;> simp_all
  refine .ofWords [['['], ['{']] (by decide) ?_
    (fun text free => ⟨elsewhere _ _ _ _ text free, elsewhere _ _ _ _ text free⟩) scalars
  exact List.forall_mem_cons.mpr ⟨alike_arrayOf gaps values,
    List.forall_mem_singleton.mpr (alike_tableOf tables).afterBlanks⟩

theorem alike_laterItems (gaps : SkipsAlike writtenGap gap)
    (others : ReadsAlike writtenItems items) (item : Value) :
    ReadsAlike (laterItems writtenGap writtenItems item) (laterItems gap items item) :=
  .bind (.after gaps others) fun items => .result (item :: items)

theorem alike_moreItems (gaps : SkipsAlike writtenGap gap)
    (others : ReadsAlike writtenItems items) (item : Value) :
    ReadsAlike (moreItems writtenGap writtenItems item) (moreItems gap items item) := by
  have elsewhere : ∀ gap items text, (∀ word ∈ [[','], [']']], ¬ word <+: text) →
      moreItems gap items item text = none := by
    intro gap items text free
    unfold moreItems
    split <;> simp_all
  refine .ofWords [[','], [']']] (by decide) ?_
    (fun text free => ⟨elsewhere _ _ text free, elsewhere _ _ text free⟩) .nothing
  exact List.forall_mem_cons.mpr ⟨alike_laterItems gaps others item,
    List.forall_mem_singleton.mpr (.result [item])⟩

theorem alike_firstItems (gaps : SkipsAlike writtenGap gap)
    (values : ReadsAlike writtenValue value) (others : ReadsAlike writtenItems items) :
    ReadsAlike (firstItems writtenGap writtenValue writtenItems) (firstItems gap value items) :=
  .bind values fun item => .after gaps (alike_moreItems gaps others item)

theorem alike_itemsOf (gaps : SkipsAlike writtenGap gap)
    (values : ReadsAlike writtenValue value) (others : ReadsAlike writtenItems items) :
    ReadsAlike (itemsOf writtenGap writtenValue writtenItems) (itemsOf gap value items) := by
  have elsewhere : ∀ gap value items text, ¬ [']'] <+: text →
      itemsOf gap value items text = firstItems gap value items text := by
    intro gap value items text free
    unfold itemsOf
    split <;> simp_all
  exact .ofWord [']'] (by decide) (.result [])
    (fun text free => ⟨elsewhere _ _ _ text free, elsewhere _ _ _ text free⟩)
    (alike_firstItems gaps values others)

theorem alike_bindingOf (values : ReadsAlike writtenValue value) :
    ReadsAlike (bindingOf writtenValue) (bindingOf value) := by
  refine .bind inLine_key? fun path => .ofWord ['='] (by decide) ?_ ?_ .nothing
  · exact .bind values.afterBlanks fun value => .result (path, value)
  · intro text free
    constructor
    · dsimp only
      split <;> simp_all
    · dsimp only
      split <;> simp_all

theorem alike_laterBindings (others : ReadsAlike writtenInline inline)
    (binding : List String × Value) :
    ReadsAlike (laterBindings writtenInline binding) (laterBindings inline binding) :=
  .bind others fun bindings => .result (binding :: bindings)

theorem alike_moreBindings (others : ReadsAlike writtenInline inline)
    (binding : List String × Value) :
    ReadsAlike (moreBindings writtenInline binding) (moreBindings inline binding) := by
  have elsewhere : ∀ inline text, (∀ word ∈ [[','], ['}']], ¬ word <+: text) →
      moreBindings inline binding text = none := by
    intro inline text free
    unfold moreBindings
    split <;> simp_all
  refine .ofWords [[','], ['}']] (by decide) ?_
    (fun text free => ⟨elsewhere _ text free, elsewhere _ text free⟩) .nothing
  exact List.forall_mem_cons.mpr ⟨alike_laterBindings others binding,
    List.forall_mem_singleton.mpr (.result [binding])⟩

theorem alike_bindingsOf (values : ReadsAlike writtenValue value)
    (others : ReadsAlike writtenInline inline) :
    ReadsAlike (bindingsOf writtenValue writtenInline) (bindingsOf value inline) :=
  .bind (alike_bindingOf values) fun binding => (alike_moreBindings others binding).afterBlanks

theorem inLine_headerOf {closing : List Char} (onLine : OnLine closing) :
    InLine (headerOf closing) := by
  refine .bind inLine_key? fun path => InLine.ofWord closing onLine ?_ ?_ .nothing
  · simp only [List.prefix_append, if_true, List.drop_left]
    exact .result path
  · intro text free
    exact if_neg free

theorem alike_assignmentOf (values : ReadsAlike writtenValue value) :
    ReadsAlike (assignmentOf writtenValue) (assignmentOf value) :=
  .bind (alike_bindingOf values) fun binding =>
    .result (Statement.assignment binding.1 binding.2)

theorem alike_plainStatement (values : ReadsAlike writtenValue value) :
    ReadsAlike (plainStatement writtenValue) (plainStatement value) := by
  have elsewhere : ∀ value text, ¬ ['['] <+: text →
      plainStatement value text = assignmentOf value text := by
    intro value text free
    unfold plainStatement
    split <;> simp_all
  exact .ofWord ['['] (by decide) (inLine_headerOf (by decide)).map
    (fun text free => ⟨elsewhere _ text free, elsewhere _ text free⟩) (alike_assignmentOf values)

theorem alike_statementOf (values : ReadsAlike writtenValue value) :
    ReadsAlike (statementOf writtenValue) (statementOf value) := by
  have elsewhere : ∀ value text, ¬ ['[', '['] <+: text →
      statementOf value text = plainStatement value text := by
    intro value text free
    unfold statementOf
    split <;> simp_all
  exact .ofWord ['[', '['] (by decide) (inLine_headerOf (by decide)).map
    (fun text free => ⟨elsewhere _ text free, elsewhere _ text free⟩)
    (alike_plainStatement values)

theorem lineEndOf_unify (text : List Char) :
    lineEndOf lineFeed? (unifyLineEnds text) =
      (lineEndOf AsWritten.newline? text).map unifyLineEnds := by
  simp only [lineEndOf, skipBlanks_unify, skipComment_unify, isEmpty_unify, lineFeed?_unify]
  split <;> rfl

theorem statementsOf_unify {statement writtenStatement : Reader Statement}
    {statements writtenStatements : List Char → Option (List Statement)}
    (first : ReadsAlike writtenStatement statement)
    (others : ∀ text, statements (unifyLineEnds text) = writtenStatements text)
    (text : List Char) :
    statementsOf lineFeed? statement statements (unifyLineEnds text) =
      statementsOf AsWritten.newline? writtenStatement writtenStatements text := by
  have comment : OnLine ['#'] := by decide
  simp only [statementsOf, skipBlanks_unify, isEmpty_unify, lineFeed?_unify, lineEndOf_unify,
    prefix_unify_iff comment, first.unify]
  split
  · rfl
  cases AsWritten.newline? (skipBlanks text) with
  | some rest => exact others rest
  | none =>
      simp only [Option.map_none]
      split
      · cases lineEndOf AsWritten.newline? (skipBlanks text) with
        | none => rfl
        | some rest => exact others rest
      · cases writtenStatement (skipBlanks text) with
        | none => rfl
        | some reading =>
            simp only [Option.map_some, unifyRest, Option.bind_eq_bind, Option.bind_some,
              lineEndOf_unify]
            cases lineEndOf AsWritten.newline? reading.2 with
            | none => rfl
            | some rest => simp only [Option.map_some, Option.bind_some, others]

end Steps

/-! ## Values and statements, whatever the fuel -/

theorem alike_values (fuel depth : Nat) :
    ReadsAlike (AsWritten.value? fuel depth) (value? fuel depth) ∧
    ReadsAlike (AsWritten.items? fuel depth) (items? fuel depth) ∧
    ReadsAlike (AsWritten.inline? fuel depth) (inline? fuel depth) := by
  induction fuel generalizing depth with
  | zero => exact ⟨.nothing, .nothing, .nothing⟩
  | succ fuel induction =>
      obtain ⟨values, items, inline⟩ := induction depth
      rw [items?_succ, inline?_succ, AsWritten.items?, AsWritten.inline?]
      refine ⟨?_, alike_itemsOf (alike_skipGap false) values items,
        alike_bindingsOf values inline⟩
      cases depth with
      | zero =>
          rw [value?_zero, AsWritten.value?]
          exact alike_closedValue alike_scalar
      | succ depth =>
          obtain ⟨_, items, inline⟩ := induction depth
          rw [value?_succ, AsWritten.value?]
          exact alike_valueOf (alike_skipGap false) alike_scalar items inline

theorem alike_value? (fuel depth : Nat) :
    ReadsAlike (AsWritten.value? fuel depth) (value? fuel depth) :=
  (alike_values fuel depth).1

theorem alike_statement? (fuel : Nat) :
    ReadsAlike (AsWritten.statement? fuel) (statement? fuel) := by
  rw [statement?_eq]
  exact alike_statementOf (alike_value? fuel nestingLimit)

/-- The statements of a text do not depend on how its line ends are spelled. -/
theorem statements?_unify (fuel : Nat) (text : List Char) :
    statements? fuel (unifyLineEnds text) = AsWritten.statements? fuel text := by
  induction fuel generalizing text with
  | zero => rfl
  | succ fuel induction =>
      rw [statements?_succ, AsWritten.statements?]
      exact statementsOf_unify (alike_statement? fuel) induction text

end UserRegistry.Toml
