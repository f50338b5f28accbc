import UserRegistry.Proofs.Associations
import UserRegistry.Toml.Document

/-!
# Documents with distinct keys

No key comes twice in a table of a document, at any depth: a name is bound only where it
is free, and a header that reaches a table again changes what the name is bound to
without binding it once more.
-/

namespace UserRegistry

/-- Neither an array nor a table. -/
def Value.Plain : Value → Prop
  | .array _ => False
  | .table _ => False
  | _ => True

/-- No table in a value holds a key twice. -/
inductive Value.Distinct : Value → Prop where
  | plain {value : Value} : value.Plain → Distinct value
  | array {items : List Value} :
      (∀ item ∈ items, Distinct item) → Distinct (.array items)
  | table {entries : Entries} :
      (entries.map Prod.fst).Nodup → (∀ entry ∈ entries, Distinct entry.2) →
      Distinct (.table entries)

namespace Toml

/-- The same of what a name is bound to. -/
inductive Item.Distinct : Item → Prop where
  | value {value : Value} : value.Distinct → Distinct (.value value)
  | table {origin : Origin} {items : Items} :
      (items.map Prod.fst).Nodup → (∀ binding ∈ items, Distinct binding.2) →
      Distinct (.table origin items)
  | tables {elements : List Items} :
      (∀ items ∈ elements, (items.map Prod.fst).Nodup) →
      (∀ items ∈ elements, ∀ binding ∈ items, Distinct binding.2) →
      Distinct (.tables elements)

structure Items.Distinct (items : Items) : Prop where
  names : (items.map Prod.fst).Nodup
  bound : ∀ binding ∈ items, binding.2.Distinct

theorem entriesOf_eq_map (items : Items) :
    entriesOf items = items.map fun binding => (binding.1, binding.2.toValue) := by
  induction items with
  | nil => rfl
  | cons binding items induction =>
      exact congrArg ((binding.1, binding.2.toValue) :: ·) induction

theorem tablesOf_eq_map (elements : List Items) :
    tablesOf elements = elements.map fun items => .table (entriesOf items) := by
  induction elements with
  | nil => rfl
  | cons items elements induction => exact congrArg (.table (entriesOf items) :: ·) induction

theorem map_fst_entriesOf (items : Items) :
    (entriesOf items).map Prod.fst = items.map Prod.fst := by
  rw [entriesOf_eq_map, List.map_map]
  rfl

/-! ## Finished tables -/

theorem distinct_entriesOf {items : Items}
    (finished : ∀ binding ∈ items, binding.2.toValue.Distinct) :
    ∀ entry ∈ entriesOf items, entry.2.Distinct := by
  rw [entriesOf_eq_map, List.forall_mem_map]
  exact finished

theorem Item.Distinct.toValue {item : Item} (distinct : item.Distinct) :
    item.toValue.Distinct := by
  induction distinct with
  | value held =>
      rw [Item.toValue]
      exact held
  | table names _ induction =>
      rw [Item.toValue]
      exact .table (by rwa [map_fst_entriesOf]) (distinct_entriesOf induction)
  | tables names _ induction =>
      rw [Item.toValue, tablesOf_eq_map]
      refine .array (List.forall_mem_map.mpr ?_)
      intro items inside
      exact .table (by rw [map_fst_entriesOf]; exact names items inside)
        (distinct_entriesOf (induction items inside))

namespace Items

variable {items changed : Items} {name : String} {item : Item}

theorem Distinct.finished (distinct : items.Distinct) :
    Value.Distinct (.table (entriesOf items)) :=
  .table (by rw [map_fst_entriesOf]; exact distinct.names)
    (distinct_entriesOf fun binding inside => (distinct.bound binding inside).toValue)

/-! ## Tables under construction -/

theorem distinct_nil : Distinct [] where
  names := List.nodup_nil
  bound := by simp

theorem Distinct.asTable (distinct : items.Distinct) (origin : Origin) :
    (Item.table origin items).Distinct :=
  .table distinct.names distinct.bound

theorem distinct_of_asTable {origin : Origin} (distinct : (Item.table origin items).Distinct) :
    items.Distinct := by
  cases distinct with
  | table names bound => exact ⟨names, bound⟩

theorem distinct_tables_iff {elements : List Items} :
    (Item.tables elements).Distinct ↔ ∀ items ∈ elements, items.Distinct := by
  constructor
  · intro distinct items inside
    cases distinct with
    | tables names bound => exact ⟨names items inside, bound items inside⟩
  · intro distinct
    exact .tables (fun items inside => (distinct items inside).names)
      fun items inside => (distinct items inside).bound

theorem Distinct.lookup (distinct : items.Distinct) (found : items.lookup name = some item) :
    item.Distinct :=
  distinct.bound _ (Associations.mem_of_lookup found)

theorem Distinct.concat (distinct : items.Distinct) (free : items.lookup name = none)
    (new : item.Distinct) : Distinct (items ++ [(name, item)]) where
  names := by
    rw [List.map_append, List.map_singleton, ← List.concat_eq_append]
    exact distinct.names.concat (Associations.lookup_eq_none_iff_not_mem.mp free)
  bound := by
    intro binding inside
    rcases List.mem_append.mp inside with old | added
    · exact distinct.bound binding old
    · cases List.mem_singleton.mp added
      exact new

theorem Distinct.replace (distinct : items.Distinct) (new : item.Distinct) (name : String) :
    (Items.replace name item items).Distinct where
  names := by
    have same : (fun binding : String × Item =>
        (if binding.1 = name then (name, item) else binding).1) = Prod.fst := by
      funext binding
      split
      · rename_i named
        exact named.symm
      · rfl
    rw [Items.replace, List.map_map, Function.comp_def, same]
    exact distinct.names
  bound := by
    rw [Items.replace, List.forall_mem_map]
    intro binding inside
    split
    · exact new
    · exact distinct.bound binding inside

theorem Distinct.remove (distinct : items.Distinct) (name : String) :
    (Items.remove name items).Distinct where
  names := distinct.names.sublist (List.filter_sublist.map Prod.fst)
  bound := by
    intro binding inside
    exact distinct.bound binding (List.mem_of_mem_filter inside)

theorem lookup_remove (name : String) (items : Items) :
    (Items.remove name items).lookup name = none := by
  rw [Items.remove, Associations.lookup_filter_ne, if_pos rfl]

/-- Changes keep keys distinct. -/
def Keeps (change : Items → Option Items) : Prop :=
  ∀ items changed, change items = some changed → items.Distinct → changed.Distinct

theorem keeps_foldlM {Part : Type} {build : Items → Part → Option Items}
    {parts : List Part} (keeps : ∀ part ∈ parts, Keeps fun items => build items part) :
    Keeps fun items => parts.foldlM build items := by
  intro items changed result distinct
  induction parts generalizing items with
  | nil =>
      cases result
      exact distinct
  | cons part parts induction =>
      dsimp only at result
      rw [List.foldlM_cons] at result
      obtain ⟨next, built, rest⟩ := Option.bind_eq_some_iff.mp result
      obtain ⟨first, others⟩ := List.forall_mem_cons.mp keeps
      exact induction others next rest (first items next built distinct)

/-- To change a table inside a table keeps the keys of both distinct. -/
theorem keeps_within {way : Origin} {change : Origin → Items → Option Items}
    (keeps : ∀ origin, Keeps (change origin)) (origin : Origin) (path : List String) :
    Keeps (within way change origin path) := by
  induction path generalizing origin with
  | nil => exact keeps origin
  | cons name path induction =>
      intro items changed result distinct
      rw [within] at result
      split at result
      · rename_i free
        obtain ⟨inner, opened, equality⟩ := Option.bind_eq_some_iff.mp result
        cases equality
        exact distinct.concat free ((induction way [] inner opened distinct_nil).asTable way)
      · contradiction
      · rename_i inside inner found
        split at result
        · contradiction
        · obtain ⟨next, entered, equality⟩ := Option.bind_eq_some_iff.mp result
          cases equality
          have held := distinct_of_asTable (distinct.lookup found)
          exact distinct.replace ((induction inside inner next entered held).asTable inside) name
      · rename_i elements found
        have held := distinct_tables_iff.mp (distinct.lookup found)
        split at result
        · contradiction
        · rename_i last ending
          obtain ⟨next, entered, equality⟩ := Option.bind_eq_some_iff.mp result
          cases equality
          have lastHeld := held last (List.mem_of_getLast? ending)
          refine distinct.replace (distinct_tables_iff.mpr ?_) name
          intro items inside
          rcases List.mem_append.mp inside with earlier | final
          · exact held items (List.dropLast_subset elements earlier)
          · cases List.mem_singleton.mp final
            exact induction .header last next entered lastHeld

theorem keeps_add (new : item.Distinct) (name : String) : Keeps (add name item) := by
  intro items changed result distinct
  rw [add] at result
  split at result
  · contradiction
  · rename_i free
    cases result
    exact distinct.concat (Option.not_isSome_iff_eq_none.mp free) new

theorem keeps_assign (path : List String) {value : Value} (distinct : value.Distinct) :
    Keeps (assign path value) := by
  intro items changed result kept
  rw [assign] at result
  split at result
  · contradiction
  · rename_i name _
    refine keeps_within ?_ _ _ items changed result kept
    intro origin inner next added
    split at added
    · contradiction
    · exact keeps_add (.value distinct) name inner next added

theorem keeps_assignAll {assignments : List (List String × Value)}
    (distinct : ∀ assignment ∈ assignments, assignment.2.Distinct) :
    Keeps (assignAll assignments) :=
  keeps_foldlM fun assignment inside => keeps_assign assignment.1 (distinct assignment inside)

theorem keeps_openTable {fill : Items → Option Items} (keeps : Keeps fill) (name : String) :
    Keeps (openTable name fill) := by
  intro items changed result distinct
  rw [openTable] at result
  split at result
  · rename_i free
    obtain ⟨inner, filled, equality⟩ := Option.bind_eq_some_iff.mp result
    cases equality
    exact distinct.concat free ((keeps [] inner filled distinct_nil).asTable .header)
  · rename_i inner found
    obtain ⟨next, filled, equality⟩ := Option.bind_eq_some_iff.mp result
    cases equality
    have held := distinct_of_asTable (distinct.lookup found)
    exact (distinct.remove name).concat (lookup_remove name items)
      ((keeps inner next filled held).asTable .header)
  · contradiction

theorem keeps_openElement {fill : Items → Option Items} (keeps : Keeps fill) (name : String) :
    Keeps (openElement name fill) := by
  intro items changed result distinct
  rw [openElement] at result
  obtain ⟨element, filled, opened⟩ := Option.bind_eq_some_iff.mp result
  have new := keeps [] element filled distinct_nil
  split at opened
  · rename_i free
    cases opened
    refine distinct.concat free (distinct_tables_iff.mpr ?_)
    simpa using new
  · rename_i elements found
    cases opened
    refine distinct.replace (distinct_tables_iff.mpr ?_) name
    intro items inside
    rcases List.mem_append.mp inside with earlier | final
    · exact distinct_tables_iff.mp (distinct.lookup found) items earlier
    · cases List.mem_singleton.mp final
      exact new
  · contradiction

end Items

/-! ## What is read -/

/-- An integer or a float. -/
inductive Numeric : Value → Prop where
  | integer (n : Int) : Numeric (.integer n)
  | float (number : Binary64) : Numeric (.float number)

theorem numeric_of_integer? {n : Int} {value : Value} (read : integer? n = some value) :
    Numeric value := by
  rw [integer?] at read
  split at read
  · cases read
    exact .integer n
  · contradiction

theorem numeric_of_float? {number : Binary64} {value : Value}
    (read : float? number = some value) : Numeric value := by
  rw [float?] at read
  split at read
  · contradiction
  · cases read
    exact .float number

section Text

variable {text rest : List Char} {value : Value}

theorem numeric_of_based? {base : Nat} (read : based? base text = some (value, rest)) :
    Numeric value := by
  obtain ⟨_, _, last⟩ := Option.bind_eq_some_iff.mp read
  obtain ⟨_, fits, equality⟩ := Option.bind_eq_some_iff.mp last
  cases equality
  exact numeric_of_integer? fits

theorem numeric_of_decimal? {negative : Bool}
    (read : decimal? negative text = some (value, rest)) : Numeric value := by
  obtain ⟨_, _, afterWhole⟩ := Option.bind_eq_some_iff.mp read
  obtain ⟨_, _, afterFraction⟩ := Option.bind_eq_some_iff.mp afterWhole
  obtain ⟨_, _, last⟩ := Option.bind_eq_some_iff.mp afterFraction
  dsimp only at last
  split at last
  · obtain ⟨_, fits, equality⟩ := Option.bind_eq_some_iff.mp last
    cases equality
    exact numeric_of_integer? fits
  · obtain ⟨_, fits, equality⟩ := Option.bind_eq_some_iff.mp last
    cases equality
    exact numeric_of_float? fits

theorem numeric_of_signed? {negative : Bool}
    (read : signed? negative text = some (value, rest)) : Numeric value := by
  unfold signed? at read
  split at read
  · cases read
    exact .float _
  · cases read
    exact .float _
  · exact numeric_of_decimal? read

theorem numeric_of_number? (read : number? text = some (value, rest)) : Numeric value := by
  unfold number? at read
  split at read
  · exact numeric_of_based? read
  · exact numeric_of_based? read
  · exact numeric_of_based? read
  · exact numeric_of_signed? read

theorem word?_cases (read : word? text = some (value, rest)) :
    Numeric value ∨ ∃ flag, value = .boolean flag := by
  unfold word? at read
  split at read
  · cases read
    exact .inr ⟨_, rfl⟩
  · cases read
    exact .inr ⟨_, rfl⟩
  · cases read
    exact .inl (.float _)
  · cases read
    exact .inl (.float _)
  · contradiction

/-- What a value is that is neither an array nor a table; a date-time is one by its
literal. -/
theorem scalar_cases (read : scalar text = some (value, rest)) :
    Numeric value ∨ (∃ flag, value = .boolean flag) ∨ (∃ content, value = .string content) ∨
      ∃ date, value = .datetime date ∧ Datetime.literal? text = some (date, rest) := by
  unfold scalar at read
  split at read
  · contradiction
  · split at read
    · obtain ⟨_, _, equality⟩ := Option.map_eq_some_iff.mp read
      cases equality
      exact .inr (.inr (.inl ⟨_, rfl⟩))
    · split at read
      · unfold numberOrDatetime? at read
        split at read
        · rename_i dated
          cases read
          exact .inr (.inr (.inr ⟨_, rfl, dated⟩))
        · exact .inl (numeric_of_number? read)
      · rcases word?_cases read with numeric | flag
        · exact .inl numeric
        · exact .inr (.inl flag)

theorem plain_of_scalar (read : scalar text = some (value, rest)) : value.Plain := by
  rcases scalar_cases read with numeric | ⟨_, rfl⟩ | ⟨_, rfl⟩ | ⟨_, rfl, _⟩
  · cases numeric <;> trivial
  · trivial
  · trivial
  · trivial

end Text

theorem distinct_of_inlineTable? {assignments : List (List String × Value)} {value : Value}
    (distinct : ∀ assignment ∈ assignments, assignment.2.Distinct)
    (built : inlineTable? assignments = some value) : value.Distinct := by
  obtain ⟨items, assigned, equality⟩ := Option.bind_eq_some_iff.mp built
  cases equality
  exact (Items.keeps_assignAll distinct [] items assigned Items.distinct_nil).finished

/-- What the three readers of values give with some fuel has distinct keys. -/
structure ReadsDistinct (fuel : Nat) : Prop where
  value : ∀ depth text value rest, value? fuel depth text = some (value, rest) →
    value.Distinct
  items : ∀ depth text items rest, items? fuel depth text = some (items, rest) →
    ∀ item ∈ items, item.Distinct
  inline : ∀ depth text assignments rest,
    inline? fuel depth text = some (assignments, rest) →
    ∀ assignment ∈ assignments, assignment.2.Distinct

theorem ReadsDistinct.value_succ {fuel : Nat} (reads : ReadsDistinct fuel) (depth : Nat)
    (text : List Char) (value : Value) (rest : List Char)
    (result : value? (fuel + 1) depth text = some (value, rest)) : value.Distinct := by
  unfold value? at result
  split at result
  · contradiction
  · contradiction
  · obtain ⟨_, listed, equality⟩ := Option.bind_eq_some_iff.mp result
    cases equality
    exact .array (reads.items _ _ _ _ listed)
  · split at result
    · cases result
      exact .table List.nodup_nil (by simp)
    · obtain ⟨_, listed, last⟩ := Option.bind_eq_some_iff.mp result
      obtain ⟨_, built, equality⟩ := Option.bind_eq_some_iff.mp last
      cases equality
      exact distinct_of_inlineTable? (reads.inline _ _ _ _ listed) built
  · exact .plain (plain_of_scalar result)

theorem ReadsDistinct.items_succ {fuel : Nat} (reads : ReadsDistinct fuel) (depth : Nat)
    (text : List Char) (items : List Value) (rest : List Char)
    (result : items? (fuel + 1) depth text = some (items, rest)) :
    ∀ item ∈ items, item.Distinct := by
  unfold items? at result
  split at result
  · cases result
    simp
  · obtain ⟨⟨item, behind⟩, first, last⟩ := Option.bind_eq_some_iff.mp result
    have head := reads.value _ _ _ _ first
    dsimp only at last
    split at last
    · obtain ⟨_, others, equality⟩ := Option.bind_eq_some_iff.mp last
      cases equality
      exact List.forall_mem_cons.mpr ⟨head, reads.items _ _ _ _ others⟩
    · cases last
      exact List.forall_mem_singleton.mpr head
    · contradiction

theorem ReadsDistinct.inline_succ {fuel : Nat} (reads : ReadsDistinct fuel) (depth : Nat)
    (text : List Char) (assignments : List (List String × Value)) (rest : List Char)
    (result : inline? (fuel + 1) depth text = some (assignments, rest)) :
    ∀ assignment ∈ assignments, assignment.2.Distinct := by
  unfold inline? at result
  obtain ⟨⟨path, behind⟩, _, afterKey⟩ := Option.bind_eq_some_iff.mp result
  dsimp only at afterKey
  split at afterKey
  · obtain ⟨⟨value, behind⟩, first, last⟩ := Option.bind_eq_some_iff.mp afterKey
    have head := reads.value _ _ _ _ first
    dsimp only at last
    split at last
    · obtain ⟨_, others, equality⟩ := Option.bind_eq_some_iff.mp last
      cases equality
      exact List.forall_mem_cons.mpr ⟨head, reads.inline _ _ _ _ others⟩
    · cases last
      exact List.forall_mem_singleton.mpr head
    · contradiction
  · contradiction

theorem readsDistinct (fuel : Nat) : ReadsDistinct fuel := by
  induction fuel with
  | zero =>
      refine ⟨?_, ?_, ?_⟩
      · intro depth text value rest result
        simp [value?] at result
      · intro depth text items rest result
        simp [items?] at result
      · intro depth text assignments rest result
        simp [inline?] at result
  | succ fuel induction =>
      exact ⟨induction.value_succ, induction.items_succ, induction.inline_succ⟩

/-- The value of a statement, if it assigns one, has distinct keys. -/
def Statement.Distinct : Statement → Prop
  | .assignment _ value => value.Distinct
  | _ => True

theorem distinct_of_statement? {fuel : Nat} {text rest : List Char} {statement : Statement}
    (read : statement? fuel text = some (statement, rest)) : statement.Distinct := by
  unfold statement? at read
  split at read
  · obtain ⟨⟨path, behind⟩, _, last⟩ := Option.bind_eq_some_iff.mp read
    dsimp only at last
    split at last
    · cases last
      trivial
    · contradiction
  · obtain ⟨⟨path, behind⟩, _, last⟩ := Option.bind_eq_some_iff.mp read
    dsimp only at last
    split at last
    · cases last
      trivial
    · contradiction
  · obtain ⟨⟨path, behind⟩, _, last⟩ := Option.bind_eq_some_iff.mp read
    dsimp only at last
    split at last
    · obtain ⟨_, assigned, equality⟩ := Option.bind_eq_some_iff.mp last
      cases equality
      exact (readsDistinct fuel).value _ _ _ _ assigned
    · contradiction

theorem distinct_of_statements? {fuel : Nat} {text : List Char} {statements : List Statement}
    (read : statements? fuel text = some statements) :
    ∀ statement ∈ statements, statement.Distinct := by
  induction fuel generalizing text statements with
  | zero => simp [statements?] at read
  | succ fuel induction =>
      rw [statements?] at read
      split at read
      · cases read
        simp
      · exact induction read
      · obtain ⟨_, _, last⟩ := Option.bind_eq_some_iff.mp read
        exact induction last
      · obtain ⟨_, first, afterFirst⟩ := Option.bind_eq_some_iff.mp read
        obtain ⟨_, _, afterLine⟩ := Option.bind_eq_some_iff.mp afterFirst
        obtain ⟨_, others, equality⟩ := Option.bind_eq_some_iff.mp afterLine
        cases equality
        exact List.forall_mem_cons.mpr ⟨distinct_of_statement? first, induction others⟩

/-! ## Documents -/

theorem distinct_sections {statements : List Statement}
    (distinct : ∀ statement ∈ statements, statement.Distinct) :
    (∀ assignment ∈ (sections statements).1, assignment.2.Distinct) ∧
      ∀ part ∈ (sections statements).2, ∀ assignment ∈ part.assignments,
        assignment.2.Distinct := by
  induction statements with
  | nil => simp [sections]
  | cons statement statements induction =>
      obtain ⟨first, others⟩ := List.forall_mem_cons.mp distinct
      obtain ⟨assigned, parts⟩ := induction others
      cases statement with
      | table path => exact ⟨by simp [sections], List.forall_mem_cons.mpr ⟨assigned, parts⟩⟩
      | element path => exact ⟨by simp [sections], List.forall_mem_cons.mpr ⟨assigned, parts⟩⟩
      | assignment path value => exact ⟨List.forall_mem_cons.mpr ⟨first, assigned⟩, parts⟩

theorem keeps_openAt {opening : String → (Items → Option Items) → Items → Option Items}
    {fill : Items → Option Items} (keeps : ∀ name, Items.Keeps (opening name fill))
    (path : List String) : Items.Keeps (openAt path opening fill) := by
  intro items changed result distinct
  rw [openAt] at result
  split at result
  · contradiction
  · rename_i name _
    exact Items.keeps_within (fun _ => keeps name) _ _ items changed result distinct

theorem Section.keeps_build {part : Section}
    (assigned : ∀ assignment ∈ part.assignments, assignment.2.Distinct) :
    Items.Keeps fun items => Section.build items part := by
  intro items changed built distinct
  have fills := Items.keeps_assignAll assigned
  simp only [Section.build] at built
  cases header : part.header with
  | table path =>
      rw [header] at built
      exact keeps_openAt (Items.keeps_openTable fills) path items changed built distinct
  | element path =>
      rw [header] at built
      exact keeps_openAt (Items.keeps_openElement fills) path items changed built distinct

theorem distinct_of_build? {statements : List Statement} {items : Items}
    (distinct : ∀ statement ∈ statements, statement.Distinct)
    (built : build? statements = some items) : items.Distinct := by
  obtain ⟨assigned, parts⟩ := distinct_sections distinct
  obtain ⟨root, opened, extended⟩ := Option.bind_eq_some_iff.mp built
  have started := Items.keeps_assignAll assigned [] root opened Items.distinct_nil
  have grows := Items.keeps_foldlM fun part inside => Section.keeps_build (parts part inside)
  exact grows root items extended started

/-- In a document, and in every table inside it, no key comes twice. -/
theorem distinct_of_parse? {text : String} {entries : Entries}
    (parsed : parse? text = some entries) : Value.Distinct (.table entries) := by
  obtain ⟨_, statements, built⟩ := Option.bind_eq_some_iff.mp parsed
  obtain ⟨_, root, equality⟩ := Option.bind_eq_some_iff.mp built
  cases equality
  exact (distinct_of_build? (distinct_of_statements? statements) root).finished

theorem nodup_of_parse? {text : String} {entries : Entries}
    (parsed : parse? text = some entries) : (entries.map Prod.fst).Nodup := by
  cases distinct_of_parse? parsed with
  | plain plain => contradiction
  | table names _ => exact names

end Toml

end UserRegistry
