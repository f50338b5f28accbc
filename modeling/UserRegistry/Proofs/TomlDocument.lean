import UserRegistry.Proofs.TomlValues

/-!
# Documents written line by line

`Lines` relates a text to the statements on its lines.  A text of such lines is read as
these statements, and statements that come from sections are grouped into them again,
so that a document is known once its sections build its tables.
-/

namespace UserRegistry.Toml

/-! ## Lines -/

/-- A line, without the line feed that ends it, that holds one statement. -/
structure ReadsAs (line : List Char) (statement : Statement) : Prop where
  start : ∃ c tail, line = c :: tail ∧ isBlank c = false ∧ c ≠ '\n' ∧ c ≠ '#'
  noReturn : '\r' ∉ line
  read : ∀ fuel rest, line.length ≤ fuel →
    statement? fuel (line ++ '\n' :: rest) = some (statement, '\n' :: rest)

/-- A text of lines that hold one statement each. -/
inductive Lines : List Char → List Statement → Prop where
  | nil : Lines [] []
  | cons {line text : List Char} {statement : Statement} {statements : List Statement} :
      ReadsAs line statement → Lines text statements →
      Lines (line ++ '\n' :: text) (statement :: statements)

/-- A line that neither is blank nor starts with a comment holds a statement. -/
theorem statements?_of_start {c : Char} {tail : List Char} (solid : isBlank c = false)
    (noLineFeed : c ≠ '\n') (noComment : c ≠ '#') (fuel : Nat) :
    statements? (fuel + 1) (c :: tail) =
      (do
        let (statement, rest) ← statement? fuel (c :: tail)
        let rest ← lineEnd? rest
        let statements ← statements? fuel rest
        some (statement :: statements)) := by
  rw [statements?, skipBlanks_cons solid]
  split
  · contradiction
  · rename_i equality
    exact absurd (List.cons.inj equality).1 noLineFeed
  · rename_i equality
    exact absurd (List.cons.inj equality).1 noComment
  · rfl

namespace Lines

variable {text other : List Char} {statements others : List Statement}

theorem append (lines : Lines text statements) (more : Lines other others) :
    Lines (text ++ other) (statements ++ others) := by
  induction lines with
  | nil => exact more
  | cons line _ induction =>
      rw [List.append_assoc]
      exact .cons line induction

theorem flatMap {Part : Type} {parts : List Part} {write : Part → List Char}
    {state : Part → List Statement} (lines : ∀ part ∈ parts, Lines (write part) (state part)) :
    Lines (parts.flatMap write) (parts.flatMap state) := by
  induction parts with
  | nil => exact .nil
  | cons part parts induction =>
      rw [List.flatMap_cons, List.flatMap_cons]
      exact (lines part List.mem_cons_self).append
        (induction fun other inside => lines other (List.mem_cons_of_mem part inside))

theorem noReturn (lines : Lines text statements) : '\r' ∉ text := by
  induction lines with
  | nil => exact List.not_mem_nil
  | cons line _ induction => simp [line.noReturn, induction]

theorem length_le (lines : Lines text statements) : statements.length ≤ text.length := by
  induction lines with
  | nil => exact Nat.le_refl 0
  | cons _ _ induction =>
      simp only [List.length_append, List.length_cons]
      omega

/-- Lines in front of a text are read as their statements, a line at a time. -/
theorem statements?_append (lines : Lines text statements) (behind : List Char) (fuel : Nat)
    (enough : text.length ≤ fuel) :
    statements? fuel (text ++ behind) =
      (statements? (fuel - statements.length) behind).map (statements ++ ·) := by
  induction lines generalizing fuel with
  | nil => simp
  | @cons line text statement statements reads _ induction =>
      -- one call is spent on a line, which pays for it with its line feed
      rw [List.length_append, List.length_cons] at enough
      obtain ⟨fuel, rfl⟩ := Nat.exists_eq_succ_of_ne_zero (n := fuel) (by omega)
      have read := reads.read fuel (text ++ behind) (by omega)
      have following := induction fuel (by omega)
      obtain ⟨c, tail, rfl, solid, noLineFeed, noComment⟩ := reads.start
      have lineEnd : lineEnd? ('\n' :: (text ++ behind)) = some (text ++ behind) := rfl
      rw [List.append_assoc, List.cons_append, List.cons_append,
        statements?_of_start solid noLineFeed noComment]
      rw [List.cons_append] at read
      simp only [read, lineEnd, following, Option.bind_eq_bind, Option.bind_some,
        List.length_cons, Nat.succ_eq_add_one, Nat.add_sub_add_right]
      cases statements? (fuel - statements.length) behind <;> rfl

theorem statements?_eq (lines : Lines text statements) (fuel : Nat)
    (enough : text.length < fuel) : statements? fuel text = some statements := by
  have read := lines.statements?_append [] fuel (Nat.le_of_lt enough)
  have short := lines.length_le
  obtain ⟨left, spare⟩ := Nat.exists_eq_succ_of_ne_zero
    (n := fuel - statements.length) (by omega)
  rw [List.append_nil, spare] at read
  simpa [statements?, skipBlanks] using read

end Lines

/-! ## Statements -/

theorem statement?_of_key {key : List Char} {name : String} (keyReads : ReadsAsKey key name)
    (fuel : Nat) (text : List Char) :
    statement? fuel (key ++ ' ' :: '=' :: text) =
      (value? fuel nestingLimit (skipBlanks text)).map
        fun (value, rest) => (.assignment [name] value, rest) := by
  obtain ⟨c, tail, rfl, _, _, _, noHeader⟩ := keyReads.start
  have read := keyReads.read text
  unfold statement?
  split
  · rename_i equality
    exact absurd (List.cons.inj equality).1 noHeader
  · rename_i equality
    exact absurd (List.cons.inj equality).1 noHeader
  · simp only [read, Option.bind_eq_bind, Option.bind_some]
    cases value? fuel nestingLimit (skipBlanks text) <;> rfl

/-- Nothing is read from a text that starts with a binding of a key to no value. -/
theorem statements?_of_unreadable {key text : List Char} {name : String}
    (keyReads : ReadsAsKey key name)
    (unreadable : ∀ fuel, value? fuel nestingLimit (skipBlanks text) = none) (fuel : Nat) :
    statements? fuel (key ++ ' ' :: '=' :: text) = none := by
  cases fuel with
  | zero => rfl
  | succ fuel =>
      have noStatement := statement?_of_key keyReads fuel text
      rw [unreadable] at noStatement
      obtain ⟨c, tail, rfl, solid, noLineFeed, noComment, _⟩ := keyReads.start
      rw [List.cons_append] at noStatement ⊢
      rw [statements?_of_start solid noLineFeed noComment, noStatement]
      rfl

/-- A line that binds a key to a value which is read whole in front of a line feed. -/
theorem readsAs_assignment_of_value {key text : List Char} {name : String} {value : Value}
    (keyReads : ReadsAsKey key name) (noReturn : '\r' ∉ text)
    (read : ∀ fuel rest, text.length < fuel →
      value? fuel nestingLimit (skipBlanks (text ++ '\n' :: rest)) =
        some (value, '\n' :: rest)) :
    ReadsAs (key ++ ' ' :: '=' :: ' ' :: text) (.assignment [name] value) := by
  obtain ⟨c, tail, start, solid, noLineFeed, noComment, _⟩ := keyReads.start
  refine ⟨⟨c, tail ++ ' ' :: '=' :: ' ' :: text, ?_, solid, noLineFeed, noComment⟩, ?_, ?_⟩
  · rw [start, List.cons_append]
  · simp [keyReads.noReturn, noReturn]
  · intro fuel rest enough
    simp only [List.length_append, List.length_cons] at enough
    simp only [List.append_assoc, List.cons_append]
    rw [statement?_of_key keyReads, skipBlanks_space, read fuel rest (by omega)]
    rfl

theorem readsAs_assignment {key : List Char} {name : String} {v : Json}
    (keyReads : ReadsAsKey key name) (valueReads : ReadsBack v)
    (shallow : v.depth ≤ nestingLimit) :
    ReadsAs (key ++ ' ' :: '=' :: ' ' :: written v) (.assignment [name] v.toValue) := by
  apply readsAs_assignment_of_value keyReads valueReads.noReturn
  intro fuel rest enough
  rw [valueReads.skipBlanks_written]
  exact valueReads.read fuel nestingLimit ('\n' :: rest)
    (Text.delimited_cons _ (by decide)) (Nat.le_of_lt enough) shallow

theorem readsAs_table {name : String} {path : List String}
    (reads : ∀ rest, key? (name.toList ++ ']' :: rest) = some (path, ']' :: rest))
    (noBracket : '[' ∉ name.toList) (noReturn : '\r' ∉ name.toList) :
    ReadsAs ('[' :: name.toList ++ [']']) (.table path) := by
  refine ⟨⟨'[', _, rfl, by decide⟩, ?_, ?_⟩
  · simp [noReturn]
  · intro fuel rest _
    have key := reads ('\n' :: rest)
    simp only [List.cons_append, List.append_assoc, List.nil_append]
    unfold statement?
    split
    · rename_i equality
      have second := (List.cons.inj equality).2
      cases text : name.toList with
      | nil =>
          rw [text, List.nil_append] at second
          exact absurd (List.cons.inj second).1 (by decide)
      | cons c tail =>
          rw [text] at second
          have first : '[' ∈ name.toList := by
            rw [text, (List.cons.inj second).1]
            exact List.mem_cons_self
          exact absurd first noBracket
    · rename_i equality
      cases equality
      simp [key]
    · rename_i noHeader
      exact absurd rfl (noHeader _)

theorem readsAs_element {name : String} {path : List String}
    (reads : ∀ rest, key? (name.toList ++ ']' :: rest) = some (path, ']' :: rest))
    (noReturn : '\r' ∉ name.toList) :
    ReadsAs ('[' :: '[' :: name.toList ++ [']', ']']) (.element path) := by
  refine ⟨⟨'[', _, rfl, by decide⟩, ?_, ?_⟩
  · simp [noReturn]
  · intro fuel rest _
    have key := reads (']' :: '\n' :: rest)
    simp [statement?, key]

/-! ## Sections -/

def Header.statement : Header → Statement
  | .table path => .table path
  | .element path => .element path

/-- The statements that a section is read from. -/
def Section.statements (part : Section) : List Statement :=
  part.header.statement :: part.assignments.map fun (path, value) => .assignment path value

theorem sections_assignments (assignments : List (List String × Value))
    (following : List Statement) :
    sections (assignments.map (fun (path, value) => .assignment path value) ++ following) =
      (assignments ++ (sections following).1, (sections following).2) := by
  induction assignments with
  | nil => rfl
  | cons assignment assignments induction =>
      rw [List.map_cons, List.cons_append, sections, induction]
      rfl

theorem sections_statements (parts : List Section) :
    sections (parts.flatMap Section.statements) = ([], parts) := by
  induction parts with
  | nil => rfl
  | cons part parts induction =>
      obtain ⟨header, assignments⟩ := part
      have grouped := sections_assignments assignments (parts.flatMap Section.statements)
      rw [induction, List.append_nil] at grouped
      rw [List.flatMap_cons, Section.statements, List.cons_append]
      cases header with
      | table path => simp only [Header.statement, sections, grouped]
      | element path => simp only [Header.statement, sections, grouped]

theorem lines_assignments {members : Json.Members} {key : String → List Char}
    (keys : ∀ member ∈ members, ReadsAsKey (key member.1) member.1)
    (values : ∀ member ∈ members, ReadsBack member.2)
    (shallow : Json.memberDepth members ≤ nestingLimit) :
    Lines (members.flatMap fun member => assignment (key member.1) (written member.2))
      ((plainAssignments (Json.toEntries members)).map fun (path, value) =>
        .assignment path value) := by
  induction members with
  | nil => exact .nil
  | cons member members induction =>
      obtain ⟨name, v⟩ := member
      rw [Json.memberDepth, Nat.max_le] at shallow
      have first : ReadsAs (key name ++ ' ' :: '=' :: ' ' :: written v)
          (.assignment [name] v.toValue) :=
        readsAs_assignment (keys (name, v) List.mem_cons_self)
          (values (name, v) List.mem_cons_self) shallow.1
      have others := induction
        (fun member inside => keys member (List.mem_cons_of_mem _ inside))
        (fun member inside => values member (List.mem_cons_of_mem _ inside)) shallow.2
      have line := Lines.cons first others
      rw [List.flatMap_cons, assignment]
      simpa [plainAssignments, Json.toEntries] using line

theorem lines_section {line : List Char} (header : Header) (members : Json.Members)
    {key : String → List Char} (reads : ReadsAs line header.statement)
    (keys : ∀ member ∈ members, ReadsAsKey (key member.1) member.1)
    (values : ∀ member ∈ members, ReadsBack member.2)
    (shallow : Json.memberDepth members ≤ nestingLimit) :
    Lines (line ++ '\n' :: members.flatMap fun member =>
        assignment (key member.1) (written member.2))
      (Section.ofEntries header (Json.toEntries members)).statements :=
  .cons reads (lines_assignments keys values shallow)

/-! ## Documents -/

theorem unifyLineEnds_of_noReturn {text : List Char} (noReturn : '\r' ∉ text) :
    unifyLineEnds text = text := by
  induction text with
  | nil => rfl
  | cons c text induction =>
      have first : c ≠ '\r' := by
        rintro rfl
        exact noReturn List.mem_cons_self
      rw [unifyLineEnds, induction (List.not_mem_of_not_mem_cons noReturn)]
      exact fun _ equality => absurd equality first

theorem dropByteOrderMark_of_noMark {text : List Char}
    (noMark : text.head? ≠ some '\ufeff') : dropByteOrderMark text = text := by
  unfold dropByteOrderMark
  split
  · exact absurd rfl noMark
  · rfl

/-- A text whose lines are those of sections is the document that the sections build. -/
theorem document?_of_lines {text : List Char} {parts : List Section} {items : Items}
    (lines : Lines text (parts.flatMap Section.statements))
    (noMark : text.head? ≠ some '\ufeff')
    (built : parts.foldlM Section.build [] = some items) :
    document? text = some (entriesOf items) := by
  have statements := lines.statements?_eq (2 * text.length + 2) (by omega)
  have root : build? (parts.flatMap Section.statements) = some items := by
    rw [build?, sections_statements]
    exact built
  rw [document?, dropByteOrderMark_of_noMark noMark,
    unifyLineEnds_of_noReturn lines.noReturn]
  simp only [statements, Option.bind_eq_bind, Option.bind_some, root]

/-- A text is no document when behind some of its lines nothing is read. -/
theorem document?_of_unreadable {text behind : List Char} {statements : List Statement}
    (lines : Lines text statements)
    (noMark : (text ++ behind).head? ≠ some '\ufeff') (noReturn : '\r' ∉ behind)
    (unreadable : ∀ fuel, statements? fuel behind = none) :
    document? (text ++ behind) = none := by
  have free : '\r' ∉ text ++ behind := by
    simp [lines.noReturn, noReturn]
  have read := lines.statements?_append behind (2 * (text ++ behind).length + 2) (by
    rw [List.length_append]
    omega)
  rw [unreadable, Option.map_none] at read
  rw [document?, dropByteOrderMark_of_noMark noMark, unifyLineEnds_of_noReturn free]
  simp only [read, Option.bind_eq_bind, Option.bind_none]

end UserRegistry.Toml
