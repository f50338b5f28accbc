import UserRegistry.Proofs.JsonMetadata
import UserRegistry.Proofs.TomlTables
import UserRegistry.Proofs.TomlText

/-!
# Written TOML values read back

The text of a value that metadata can hold reads back as the tree of that value, and
the tree as the value.  As in JSON a value may stand in front of any text that a
delimiter starts.  Besides, no more arrays and inline tables may be open at once than
the reader has room for.
-/

namespace UserRegistry

/-! ## Values of a configuration -/

mutual

/-- How many arrays and objects are open at once in a value. -/
def Json.depth : Json → Nat
  | .array items => Json.itemDepth items + 1
  | .object members => Json.memberDepth members + 1
  | _ => 0

def Json.itemDepth : List Json → Nat
  | [] => 0
  | item :: items => max item.depth (Json.itemDepth items)

def Json.memberDepth : List (String × Json) → Nat
  | [] => 0
  | (_, value) :: members => max value.depth (Json.memberDepth members)

end

/-- No `null`, no float, integers of 64 bits with sign, and objects with distinct keys
in order, none of them the marker of date-times. -/
def Json.Configurable : Json → Prop
  | .null => False
  | .float _ => False
  | .integer value => -Numeral.signedBound ≤ value ∧ value < Numeral.signedBound
  | .object members =>
      Json.Members.Ordered members ∧ ∀ member ∈ members, member.1 ≠ datetimeMarker
  | _ => True

theorem Json.toEntries_eq_map (members : Members) :
    toEntries members = members.map fun member => (member.1, member.2.toValue) := by
  induction members with
  | nil => rfl
  | cons member members induction => exact congrArg ((member.1, member.2.toValue) :: ·) induction

theorem Json.toValues_eq_map (items : List Json) :
    toValues items = items.map toValue := by
  induction items with
  | nil => rfl
  | cons item items induction => exact congrArg (item.toValue :: ·) induction

theorem Json.map_fst_toEntries (members : Json.Members) :
    (Json.toEntries members).map Prod.fst = members.map Prod.fst := by
  rw [toEntries_eq_map, List.map_map]
  rfl

namespace Toml

/-- The text of a value starts with a character of its own and stays on its line, and in
front of a delimiter it is read back with no more fuel than its length. -/
structure ReadsBack (v : Json) : Prop where
  start : ∃ c tail, written v = c :: tail ∧ isBlank c = false ∧ c ≠ '\n' ∧ c ≠ '#' ∧ c ≠ ']'
  noReturn : '\r' ∉ written v
  read : ∀ fuel depth rest, Text.Delimited rest → (written v).length ≤ fuel →
    v.depth ≤ depth → value? fuel depth (written v ++ rest) = some (v.toValue, rest)

theorem ReadsBack.noBracket {v : Json} (readable : ReadsBack v) (behind rest : List Char) :
    written v ++ behind ≠ ']' :: rest := by
  obtain ⟨c, tail, text, _, _, _, noBracket⟩ := readable.start
  rw [text]
  intro equality
  exact noBracket (List.cons.inj equality).1

theorem ReadsBack.skipGap_written {v : Json} (readable : ReadsBack v) (rest : List Char) :
    skipGap false (written v ++ rest) = written v ++ rest := by
  obtain ⟨c, tail, text, solid, noLineFeed, noComment, _⟩ := readable.start
  rw [text]
  exact skipGap_cons solid noLineFeed noComment _

theorem ReadsBack.skipBlanks_written {v : Json} (readable : ReadsBack v)
    (rest : List Char) : skipBlanks (written v ++ rest) = written v ++ rest := by
  obtain ⟨c, tail, text, solid, _⟩ := readable.start
  rw [text]
  exact skipBlanks_cons solid _

/-! ## Arrays -/

section Items

variable {fuel depth : Nat} {text behind rest : List Char} {item : Json}
  {others : List Json} {value : Value} {values : List Value}

theorem items?_of_last (noBracket : ∀ tail, text ≠ ']' :: tail)
    (read : value? fuel depth text = some (value, ']' :: rest)) :
    items? (fuel + 1) depth text = some ([value], rest) := by
  rw [items?.eq_3 depth text fuel noBracket, read]
  rfl

theorem items?_of_next (noBracket : ∀ tail, text ≠ ']' :: tail)
    (read : value? fuel depth text = some (value, ',' :: behind))
    (more : items? fuel depth (skipGap false behind) = some (values, rest)) :
    items? (fuel + 1) depth text = some (value :: values, rest) := by
  rw [items?.eq_3 depth text fuel noBracket, read]
  simp only [Option.bind_eq_bind, Option.bind_some]
  rw [skipGap_cons rfl (by decide) (by decide)]
  simp only [more, Option.bind_some]

theorem items?_written (readable : ∀ v ∈ item :: others, ReadsBack v)
    (shallow : Json.itemDepth (item :: others) ≤ depth) (fuel : Nat) (rest : List Char)
    (enough : (written item).length + (writtenItems others).length < fuel) :
    items? fuel depth (written item ++ (writtenItems others ++ ']' :: rest)) =
      some (Json.toValues (item :: others), rest) := by
  -- the induction is on the items that a comma precedes, for any first item
  obtain ⟨fuel, rfl⟩ := Nat.exists_eq_succ_of_ne_zero (Nat.ne_zero_of_lt enough)
  have head : ReadsBack item := readable item List.mem_cons_self
  induction others generalizing item fuel with
  | nil =>
      simp only [Json.itemDepth, Nat.max_zero] at shallow
      apply items?_of_last (head.noBracket _)
      exact head.read fuel depth _ (Text.delimited_cons _ (by decide)) (by omega) shallow
  | cons next others induction =>
      have following : ∀ v ∈ next :: others, ReadsBack v :=
        fun v inside => readable v (List.mem_cons_of_mem _ inside)
      have nextReads := following next List.mem_cons_self
      rw [Json.itemDepth, Nat.max_le] at shallow
      simp only [writtenItems, List.length_cons, List.length_append] at enough
      simp only [writtenItems, List.cons_append, List.append_assoc]
      obtain ⟨fuel, rfl⟩ := Nat.exists_eq_succ_of_ne_zero (n := fuel) (by omega)
      apply items?_of_next (head.noBracket _)
        (head.read _ depth _ (Text.delimited_cons _ (by decide)) (by omega) shallow.1)
      rw [skipGap_space, nextReads.skipGap_written]
      exact induction following shallow.2 fuel (by omega) nextReads

end Items

/-! ## Inline tables -/

section Members

variable {fuel depth : Nat} {behind rest : List Char} {v : Json}
  {others : List (String × Json)}

theorem inline?_space (text : List Char) :
    inline? fuel depth (' ' :: text) = inline? fuel depth text := by
  cases fuel with
  | zero => rfl
  | succ fuel => rw [inline?, inline?, key?_space]

theorem ReadsBack.inline?_of_last (readable : ReadsBack v) (key : String)
    (enough : (written v).length ≤ fuel) (shallow : v.depth ≤ depth) :
    inline? (fuel + 1) depth
        (quoted key ++ ' ' :: '=' :: ' ' :: (written v ++ '}' :: rest)) =
      some ([([key], v.toValue)], rest) := by
  have read := readable.read fuel depth ('}' :: rest)
    (Text.delimited_cons _ (by decide)) enough shallow
  rw [inline?, (readsAsKey_quoted key).read]
  simp only [Option.bind_eq_bind, Option.bind_some, skipBlanks_space,
    readable.skipBlanks_written, read]
  rw [skipBlanks_cons rfl]
  rfl

theorem ReadsBack.inline?_of_next {others : List (List String × Value)}
    (readable : ReadsBack v) (key : String)
    (more : inline? fuel depth behind = some (others, rest))
    (enough : (written v).length ≤ fuel) (shallow : v.depth ≤ depth) :
    inline? (fuel + 1) depth
        (quoted key ++ ' ' :: '=' :: ' ' :: (written v ++ ',' :: behind)) =
      some (([key], v.toValue) :: others, rest) := by
  have read := readable.read fuel depth (',' :: behind)
    (Text.delimited_cons _ (by decide)) enough shallow
  rw [inline?, (readsAsKey_quoted key).read]
  simp only [Option.bind_eq_bind, Option.bind_some, skipBlanks_space,
    readable.skipBlanks_written, read]
  rw [skipBlanks_cons rfl]
  simp only [more, Option.bind_some]

theorem inline?_written {key : String}
    (readable : ∀ member ∈ (key, v) :: others, ReadsBack member.2)
    (shallow : Json.memberDepth ((key, v) :: others) ≤ depth) (fuel : Nat)
    (rest : List Char)
    (enough : (written v).length + (writtenMembers others).length < fuel) :
    inline? fuel depth (quoted key
        ++ ' ' :: '=' :: ' ' :: (written v ++ (writtenMembers others ++ '}' :: rest))) =
      some (plainAssignments (Json.toEntries ((key, v) :: others)), rest) := by
  obtain ⟨fuel, rfl⟩ := Nat.exists_eq_succ_of_ne_zero (Nat.ne_zero_of_lt enough)
  have head : ReadsBack v := readable (key, v) List.mem_cons_self
  induction others generalizing key v fuel with
  | nil =>
      simp only [Json.memberDepth, Nat.max_zero] at shallow
      exact head.inline?_of_last key (by omega) shallow
  | cons next others induction =>
      obtain ⟨nextKey, nextValue⟩ := next
      have following : ∀ member ∈ (nextKey, nextValue) :: others, ReadsBack member.2 :=
        fun member inside => readable member (List.mem_cons_of_mem _ inside)
      rw [Json.memberDepth, Nat.max_le] at shallow
      simp only [writtenMembers, List.length_cons, List.length_append] at enough
      simp only [writtenMembers, List.cons_append, List.append_assoc]
      obtain ⟨fuel, rfl⟩ := Nat.exists_eq_succ_of_ne_zero (n := fuel) (by omega)
      apply head.inline?_of_next key _ (by omega) shallow.1
      rw [inline?_space]
      exact induction following shallow.2 fuel (by omega) (following _ List.mem_cons_self)

end Members

/-! ## Whole values -/

theorem scalar_of_number {c : Char} (first : c.isDigit = true ∨ c = '-')
    (rest : List Char) : scalar (c :: rest) = numberOrDatetime? (c :: rest) := by
  have noQuote : ¬ (c = '"' ∨ c = '\'') := by
    rintro (rfl | rfl) <;> simp_all
  have number : c = '+' ∨ c = '-' ∨ c.isDigit = true := .inr first.symm
  rw [scalar, if_neg noQuote, if_pos number]

theorem value?_of_scalar {c : Char} (noArray : c ≠ '[') (noTable : c ≠ '{')
    (fuel depth : Nat) (rest : List Char) :
    value? (fuel + 1) depth (c :: rest) = scalar (c :: rest) := by
  apply value?.eq_6
  · exact fun _ equality _ => noArray (List.cons.inj equality).1
  · exact fun _ equality _ => noTable (List.cons.inj equality).1
  · exact fun _ _ equality _ => noArray (List.cons.inj equality).1
  · exact fun _ _ equality _ => noTable (List.cons.inj equality).1

/-- A value that is no array and no object is read from its text by itself. -/
theorem readsBack_of_scalar {v : Json} {c : Char} {tail : List Char}
    (text : written v = c :: tail) (solid : isBlank c = false)
    (own : c ∉ ['\n', '#', ']', '[', '{']) (noReturn : '\r' ∉ written v)
    (read : ∀ rest, Text.Delimited rest →
      scalar (c :: (tail ++ rest)) = some (v.toValue, rest)) : ReadsBack v := by
  simp only [List.mem_cons, List.not_mem_nil, or_false, not_or] at own
  obtain ⟨noLineFeed, noComment, noBracket, noArray, noTable⟩ := own
  refine ⟨⟨c, tail, text, solid, noLineFeed, noComment, noBracket⟩, noReturn, ?_⟩
  intro fuel depth rest delimited enough _
  rw [text] at enough ⊢
  obtain ⟨fuel, rfl⟩ := Nat.exists_eq_succ_of_ne_zero (Nat.ne_zero_of_lt enough)
  rw [List.cons_append]
  exact (value?_of_scalar noArray noTable fuel depth _).trans (read rest delimited)

/-- The first character of a number can be told from blanks, line feeds, comments and
brackets. -/
theorem own_of_number {c : Char} (first : c.isDigit = true ∨ c = '-') :
    isBlank c = false ∧ c ∉ ['\n', '#', ']', '[', '{'] := by
  constructor
  · rw [Bool.eq_false_iff]
    intro blank
    simp only [isBlank, Bool.or_eq_true, decide_eq_true_eq] at blank
    rcases blank with rfl | rfl <;> simp at first
  · simp only [List.mem_cons, List.not_mem_nil, or_false, not_or]
    refine ⟨?_, ?_, ?_, ?_, ?_⟩ <;> rintro rfl <;> simp at first

theorem scalar_signed (n : Int) {rest : List Char} (delimited : Text.Delimited rest) :
    scalar (Numeral.signed n ++ rest) = (integer? n).map (·, rest) := by
  rw [← numberOrDatetime?_signed n delimited]
  obtain ⟨c, tail, text, first⟩ := Numeral.signed_start n
  rw [text, List.cons_append, scalar_of_number first]

theorem value?_signed (n : Int) {rest : List Char} (delimited : Text.Delimited rest)
    (fuel depth : Nat) :
    value? (fuel + 1) depth (Numeral.signed n ++ rest) = (integer? n).map (·, rest) := by
  rw [← scalar_signed n delimited]
  obtain ⟨c, tail, text, first⟩ := Numeral.signed_start n
  have own := (own_of_number first).2
  simp only [List.mem_cons, List.not_mem_nil, or_false, not_or] at own
  rw [text, List.cons_append, value?_of_scalar own.2.2.2.1 own.2.2.2.2]

theorem readsBack_integer {n : Int} (bounds : (Json.integer n).Configurable) :
    ReadsBack (.integer n) := by
  obtain ⟨c, tail, text, first⟩ := Numeral.signed_start n
  obtain ⟨solid, own⟩ := own_of_number first
  refine readsBack_of_scalar (v := .integer n) text solid own (noReturn_signed n) ?_
  intro rest delimited
  have read := scalar_signed n delimited
  rw [integer?_of_bounds bounds.1 bounds.2, text] at read
  exact read

theorem readsBack_string (text : String) : ReadsBack (.string text) := by
  have start : written (.string text) = '"' :: (text.toList.flatMap escaped ++ ['"']) := rfl
  refine readsBack_of_scalar start rfl (by decide) (noReturn_quoted text) ?_
  intro rest delimited
  have noQuote : rest.head? ≠ some '"' :=
    fun first => absurd (delimited '"' first) (by decide)
  have read : string? ('"' :: (text.toList.flatMap escaped ++ ['"'] ++ rest)) =
      some (text.toList, rest) := string?_quoted text noQuote
  rw [scalar, if_pos (.inl rfl), read]
  simp [Json.toValue]

theorem noReturn_writtenItems {items : List Json}
    (readable : ∀ v ∈ items, ReadsBack v) : '\r' ∉ writtenItems items := by
  induction items with
  | nil => exact List.not_mem_nil
  | cons item items induction =>
      have head := (readable item List.mem_cons_self).noReturn
      have tail := induction fun v inside => readable v (List.mem_cons_of_mem _ inside)
      simp [writtenItems, head, tail]

theorem noReturn_writtenMembers {members : List (String × Json)}
    (readable : ∀ member ∈ members, ReadsBack member.2) :
    '\r' ∉ writtenMembers members := by
  induction members with
  | nil => exact List.not_mem_nil
  | cons member members induction =>
      obtain ⟨key, v⟩ := member
      have head := (readable (key, v) List.mem_cons_self).noReturn
      have tail :=
        induction fun member inside => readable member (List.mem_cons_of_mem _ inside)
      simp [writtenMembers, noReturn_quoted, head, tail]

theorem value?_of_inline {fuel depth : Nat} {c : Char} {text rest : List Char}
    {assignments : List (List String × Value)} {table : Value} (noBrace : c ≠ '}')
    (solid : isBlank c = false)
    (read : inline? fuel depth (c :: text) = some (assignments, rest))
    (built : inlineTable? assignments = some table) :
    value? (fuel + 1) (depth + 1) ('{' :: c :: text) = some (table, rest) := by
  rw [value?, skipBlanks_cons solid]
  split
  · rename_i equality
    exact absurd (List.cons.inj equality).1 noBrace
  · simp [read, built]

theorem readsBack_array {items : List Json} (readable : ∀ v ∈ items, ReadsBack v) :
    ReadsBack (.array items) := by
  cases items with
  | nil =>
      refine ⟨⟨'[', _, rfl, by decide⟩, by decide, ?_⟩
      intro fuel depth rest _ enough shallow
      obtain ⟨fuel, rfl⟩ := Nat.exists_eq_add_of_le' enough
      obtain ⟨depth, rfl⟩ := Nat.exists_eq_add_of_le' shallow
      rfl
  | cons item items =>
      have head := readable item List.mem_cons_self
      have tail : ∀ v ∈ items, ReadsBack v :=
        fun v inside => readable v (List.mem_cons_of_mem _ inside)
      refine ⟨⟨'[', _, rfl, by decide⟩, ?_, ?_⟩
      · simp [written, head.noReturn, noReturn_writtenItems tail]
      · intro fuel depth rest _ enough shallow
        rw [Json.depth] at shallow
        obtain ⟨depth, rfl⟩ := Nat.exists_eq_succ_of_ne_zero (Nat.ne_zero_of_lt shallow)
        simp only [written, List.cons_append, List.append_assoc, List.length_cons,
          List.length_append, List.nil_append] at enough ⊢
        obtain ⟨fuel, rfl⟩ := Nat.exists_eq_succ_of_ne_zero (Nat.ne_zero_of_lt enough)
        have read :=
          items?_written readable (Nat.le_of_succ_le_succ shallow) fuel rest (by omega)
        rw [value?, head.skipGap_written, read]
        rfl

theorem readsBack_object {members : List (String × Json)}
    (distinct : (members.map Prod.fst).Nodup)
    (readable : ∀ member ∈ members, ReadsBack member.2) : ReadsBack (.object members) := by
  cases members with
  | nil =>
      refine ⟨⟨'{', _, rfl, by decide⟩, by decide, ?_⟩
      intro fuel depth rest _ enough shallow
      obtain ⟨fuel, rfl⟩ := Nat.exists_eq_add_of_le' enough
      obtain ⟨depth, rfl⟩ := Nat.exists_eq_add_of_le' shallow
      rfl
  | cons member members =>
      obtain ⟨key, v⟩ := member
      have head := readable (key, v) List.mem_cons_self
      have tail : ∀ member ∈ members, ReadsBack member.2 :=
        fun member inside => readable member (List.mem_cons_of_mem _ inside)
      refine ⟨⟨'{', _, rfl, by decide⟩, ?_, ?_⟩
      · simp [written, noReturn_quoted, head.noReturn, noReturn_writtenMembers tail]
      · intro fuel depth rest _ enough shallow
        rw [Json.depth] at shallow
        obtain ⟨depth, rfl⟩ := Nat.exists_eq_succ_of_ne_zero (Nat.ne_zero_of_lt shallow)
        simp only [written, List.cons_append, List.append_assoc, List.length_cons,
          List.length_append, List.nil_append] at enough ⊢
        obtain ⟨fuel, rfl⟩ := Nat.exists_eq_succ_of_ne_zero (Nat.ne_zero_of_lt enough)
        have read :=
          inline?_written readable (Nat.le_of_succ_le_succ shallow) fuel rest (by omega)
        have table : inlineTable? (plainAssignments (Json.toEntries ((key, v) :: members))) =
            some (.table (Json.toEntries ((key, v) :: members))) := by
          rw [inlineTable?, Items.assignAll_plain (by rwa [Json.map_fst_toEntries])]
          simp [entriesOf_ofEntries]
        exact value?_of_inline (by decide) rfl read table

mutual

theorem readsBack_of_configurable (v : Json) (configurable : v.Everywhere Json.Configurable) :
    ReadsBack v := by
  cases v with
  | null => exact absurd configurable id
  | boolean value =>
      cases value with
      | true =>
          exact readsBack_of_scalar (c := 't') rfl rfl (by decide) (by decide) fun _ _ => rfl
      | false =>
          exact readsBack_of_scalar (c := 'f') rfl rfl (by decide) (by decide) fun _ _ => rfl
  | integer n => exact readsBack_integer configurable
  | float number => exact absurd configurable id
  | string text => exact readsBack_string text
  | array items => exact readsBack_array (readsBack_items_of_configurable items configurable.2)
  | object members =>
      exact readsBack_object configurable.1.1.distinct
        (readsBack_members_of_configurable members configurable.2)

theorem readsBack_items_of_configurable (items : List Json)
    (configurable : Json.EverywhereItems Json.Configurable items) :
    ∀ v ∈ items, ReadsBack v := by
  intro v inside
  cases items with
  | nil => contradiction
  | cons item items =>
      rcases List.mem_cons.mp inside with rfl | later
      · exact readsBack_of_configurable v configurable.1
      · exact readsBack_items_of_configurable items configurable.2 v later

theorem readsBack_members_of_configurable (members : List (String × Json))
    (configurable : Json.EverywhereMembers Json.Configurable members) :
    ∀ member ∈ members, ReadsBack member.2 := by
  intro member inside
  cases members with
  | nil => contradiction
  | cons first members =>
      obtain ⟨key, v⟩ := first
      rcases List.mem_cons.mp inside with rfl | later
      · exact readsBack_of_configurable v configurable.1
      · exact readsBack_members_of_configurable members configurable.2 member later

end

end Toml

/-! ## Values in metadata -/

namespace Json.Configurable

variable {v : Json} (configurable : v.Configurable)

include configurable

theorem unmarked : v.Unmarked := by
  cases v with
  | object members =>
      exact fun member first => configurable.2 member (List.mem_of_mem_head? first)
  | _ => trivial

theorem sorted : v.Sorted := by
  cases v with
  | object members => exact configurable.1
  | _ => trivial

theorem not_refused : v.refusal? = none := by
  cases v with
  | null => exact absurd configurable id
  | integer value => exact if_pos configurable.2
  | _ => rfl

end Json.Configurable

/-- Metadata in key order is read back from its members. -/
theorem Metadata.read_toEntries {format : Format} {members : Json.Members}
    (ordered : members.Ordered)
    (configurable : Json.EverywhereMembers Json.Configurable members) :
    read format (.table (Json.toEntries members)) = .ok members := by
  have each := (Json.everywhereMembers_iff_parts members).mp configurable
  have unmarked : Json.EverywhereMembers Json.Unmarked members :=
    (Json.everywhereMembers_iff_parts members).mpr fun part inside =>
      (each part inside).unmarked
  have sorted : Json.EverywhereMembers Json.Sorted members :=
    (Json.everywhereMembers_iff_parts members).mpr fun part inside =>
      (each part inside).sorted
  have accepted : (Json.object members).parts.findSome? Json.refusal? = none :=
    List.findSome?_eq_none_iff.mpr (List.forall_mem_cons.mpr
      ⟨rfl, fun part inside => (each part inside).not_refused⟩)
  have outcome := read_object format ⟨ordered, sorted⟩ unmarked
  rwa [accepted] at outcome

end UserRegistry
