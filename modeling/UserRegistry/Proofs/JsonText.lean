import UserRegistry.Json.Printer
import UserRegistry.Json.Reader
import UserRegistry.Proofs.Scanning

/-!
# Printed JSON reads back

Whatever its spacing, the text of a value reads back as that value, when all its
integers fit 64 bits and it holds no float.  A value may be followed by any text that
a delimiter starts, so that the statement about one value carries the statements
about the items of an array and the members of an object.
-/

namespace UserRegistry.Json

/-! ## Conditions on every part of a value -/

mutual

/-- Whether a condition holds of a value and of all values inside it. -/
def Everywhere (condition : Json → Prop) : Json → Prop
  | .array items => condition (.array items) ∧ EverywhereItems condition items
  | .object members => condition (.object members) ∧ EverywhereMembers condition members
  | scalar => condition scalar

def EverywhereItems (condition : Json → Prop) : List Json → Prop
  | [] => True
  | item :: items => item.Everywhere condition ∧ EverywhereItems condition items

def EverywhereMembers (condition : Json → Prop) : List (String × Json) → Prop
  | [] => True
  | (_, value) :: members =>
    value.Everywhere condition ∧ EverywhereMembers condition members

end

/-- A value without a float whose integer, if it is one, fits 64 bits with or without
sign. -/
def Exact : Json → Prop
  | .float _ => False
  | .integer value => -Numeral.signedBound ≤ value ∧ value < Numeral.unsignedBound
  | _ => True

/-! ## White space -/

theorem skipSpace_cons {c : Char} (solid : isSpace c = false) (rest : List Char) :
    skipSpace (c :: rest) = c :: rest := by
  rw [skipSpace, List.dropWhile_cons_of_neg (by simp [solid])]

theorem skipSpace_lineBreak (spacing : Spacing) (depth : Nat) {c : Char}
    (solid : isSpace c = false) (rest : List Char) :
    skipSpace (spacing.lineBreak depth ++ c :: rest) = c :: rest := by
  have blank : ∀ d ∈ spacing.lineBreak depth, isSpace d = true := by
    intro d inside
    cases spacing with
    | compact => contradiction
    | pretty =>
        rcases List.mem_cons.mp inside with rfl | indentation
        · rfl
        · rw [List.eq_of_mem_replicate indentation]
          rfl
  rw [skipSpace, List.dropWhile_append_of_pos blank]
  exact skipSpace_cons solid rest

/-! ## Strings -/

theorem stringRest_letter {letter c : Char} (known : unescaped? letter = some c)
    (rest : List Char) :
    stringRest ('\\' :: letter :: rest) =
      (stringRest rest).map fun (text, rest) => (c :: text, rest) := by
  have noCode : letter ≠ 'u' := by
    rintro rfl
    contradiction
  rw [stringRest.eq_4 letter rest (fun _ _ _ _ _ code => absurd code noCode), known]
  cases stringRest rest <;> rfl

theorem stringRest_code {c : Char} (control : c.toNat < 0x20) (rest : List Char) :
    stringRest ('\\' :: 'u' :: '0' :: '0' :: (c.toNat / 16).digitChar ::
        (c.toNat % 16).digitChar :: rest) =
      (stringRest rest).map fun (text, rest) => (c :: text, rest) := by
  have code := Numeral.read?_hexadecimal c.toNat (by omega)
  rw [stringRest.eq_3, code, Option.bind_eq_bind, Option.bind_some,
    Text.scalar?_toNat]
  cases stringRest rest <;> rfl

theorem stringRest_plain {c : Char} (noQuote : c ≠ '"') (noEscape : c ≠ '\\')
    (printable : ¬ c.toNat < 0x20) (rest : List Char) :
    stringRest (c :: rest) =
      (stringRest rest).map fun (text, rest) => (c :: text, rest) := by
  rw [stringRest.eq_def]
  split
  · contradiction
  · simp_all
  · simp_all
  · rename_i first tail equality
    obtain ⟨rfl, rfl⟩ := List.cons.inj equality
    rw [if_neg printable]
    cases stringRest rest <;> rfl

theorem stringRest_escaped (c : Char) (rest : List Char) :
    stringRest (escaped c ++ rest) =
      (stringRest rest).map fun (text, rest) => (c :: text, rest) := by
  unfold escaped
  split
  · subst c
    exact stringRest_letter rfl rest
  split
  · subst c
    exact stringRest_letter rfl rest
  split
  · subst c
    exact stringRest_letter rfl rest
  split
  · subst c
    exact stringRest_letter rfl rest
  split
  · subst c
    exact stringRest_letter rfl rest
  split
  · subst c
    exact stringRest_letter rfl rest
  split
  · subst c
    exact stringRest_letter rfl rest
  split
  · rename_i control
    exact stringRest_code control rest
  · rename_i noQuote noEscape _ _ _ _ _ printable
    exact stringRest_plain noQuote noEscape printable rest

theorem stringRest_quoted (text rest : List Char) :
    stringRest (text.flatMap escaped ++ '"' :: rest) = some (text, rest) := by
  induction text with
  | nil => simp [stringRest]
  | cons c text induction =>
      rw [List.flatMap_cons, List.append_assoc, stringRest_escaped, induction]
      rfl

/-! ## Numbers -/

section Numbers

variable {rest : List Char}

theorem digits?_decimal (n : Nat) (delimited : Text.Delimited rest) :
    digits? (Numeral.decimal n ++ rest) = some (Numeral.decimal n, rest) := by
  have digits : ∀ c ∈ Numeral.decimal n, c.isDigit = true :=
    fun c inside => Numeral.isDigit_of_mem_decimal inside
  have taken := Text.takeWhile_of_delimited Text.isDigit_delimiter digits delimited
  have dropped := Text.dropWhile_of_delimited Text.isDigit_delimiter digits delimited
  have nonempty := Numeral.decimal_ne_nil n
  simp [digits?, taken, dropped, nonempty]

theorem fraction?_of_delimited (delimited : Text.Delimited rest) :
    fraction? rest = some ([], rest) := by
  unfold fraction?
  split
  · exact absurd (delimited '.' rfl) (by decide)
  · rfl

theorem exponent?_of_delimited (delimited : Text.Delimited rest) :
    exponent? rest = some (none, rest) := by
  cases rest with
  | nil => rfl
  | cons c rest =>
      have noExponent : ¬ (c = 'e' ∨ c = 'E') := by
        rintro (rfl | rfl)
        · exact absurd (delimited 'e' rfl) (by decide)
        · exact absurd (delimited 'E' rfl) (by decide)
      rw [exponent?.eq_def]
      exact if_neg noExponent

/-- What is read of a decimal numeral in front of a delimiter, after its sign. -/
theorem numeral_read (negative : Bool) (n : Nat) (delimited : Text.Delimited rest) :
    (do
      let (whole, rest) ← digits? (Numeral.decimal n ++ rest)
      if whole.head? = some '0' ∧ 1 < whole.length then none
      else
        let (fraction, rest) ← fraction? rest
        let (exponent, rest) ← exponent? rest
        let value ← number? negative whole fraction exponent
        some (value, rest)) =
      (number? negative (Numeral.decimal n) [] none).map (·, rest) := by
  have noLeadingZero : ¬ ((Numeral.decimal n).head? = some '0' ∧
      1 < (Numeral.decimal n).length) := by
    rintro ⟨zero, long⟩
    rw [Numeral.decimal_of_head?_zero zero] at long
    contradiction
  simp only [digits?_decimal n delimited, fraction?_of_delimited delimited,
    exponent?_of_delimited delimited, Option.bind_eq_bind, Option.bind_some,
    if_neg noLeadingZero]
  cases number? negative (Numeral.decimal n) [] none <;> rfl

theorem number_decimal (n : Nat) (delimited : Text.Delimited rest) :
    number (Numeral.decimal n ++ rest) =
      (number? false (Numeral.decimal n) [] none).map (·, rest) := by
  rw [← numeral_read false n delimited]
  obtain ⟨c, digits, equality⟩ := List.exists_cons_of_ne_nil (Numeral.decimal_ne_nil n)
  have digit : c.isDigit = true :=
    Numeral.isDigit_of_mem_decimal (equality ▸ List.mem_cons_self)
  have noSign : c ≠ '-' := by
    rintro rfl
    contradiction
  rw [equality]
  unfold number
  simp [noSign]

theorem number_minus_decimal (n : Nat) (delimited : Text.Delimited rest) :
    number ('-' :: (Numeral.decimal n ++ rest)) =
      (number? true (Numeral.decimal n) [] none).map (·, rest) :=
  numeral_read true n delimited

theorem number_signed {value : Int} (exact : (integer value).Exact)
    (delimited : Text.Delimited rest) :
    number (Numeral.signed value ++ rest) = some (.integer value, rest) := by
  obtain ⟨lower, upper⟩ := exact
  cases value with
  | ofNat n =>
      have small : n < Numeral.unsignedBound := Int.ofNat_lt.mp upper
      rw [Numeral.signed, number_decimal n delimited, number?,
        Numeral.ofDigitChars_decimal]
      simp [small]
  | negSucc n =>
      have large : n + 1 ≤ Numeral.signedBound := by omega
      rw [Numeral.signed, List.cons_append, number_minus_decimal _ delimited, number?,
        Numeral.ofDigitChars_decimal]
      simp [large]
      omega

end Numbers

/-! ## Values -/

/-- The text of a value starts with a token, and in front of a delimiter it is read
back with no more fuel than its length. -/
structure ReadsBack (spacing : Spacing) (depth : Nat) (v : Json) : Prop where
  start : ∃ c tail, v.written spacing depth = c :: tail ∧ isSpace c = false ∧ c ≠ ']'
  read : ∀ fuel rest, Text.Delimited rest → (v.written spacing depth).length ≤ fuel →
    value fuel (v.written spacing depth ++ rest) = some (v, rest)

variable {spacing : Spacing} {depth : Nat}

theorem ReadsBack.noBracket {v : Json} (readable : ReadsBack spacing depth v)
    (behind rest : List Char) : v.written spacing depth ++ behind ≠ ']' :: rest := by
  obtain ⟨c, tail, written, _, noBracket⟩ := readable.start
  rw [written]
  intro equality
  exact noBracket (List.cons.inj equality).1

/-- No white space is left in front of a value after its line break. -/
theorem ReadsBack.skipSpace_lineBreak {v : Json} (readable : ReadsBack spacing depth v)
    (level : Nat) (rest : List Char) :
    skipSpace (spacing.lineBreak level ++ (v.written spacing depth ++ rest)) =
      v.written spacing depth ++ rest := by
  obtain ⟨c, tail, written, solid, _⟩ := readable.start
  rw [written]
  exact Json.skipSpace_lineBreak spacing level solid _

theorem delimited_lineBreak (spacing : Spacing) (depth : Nat) {c : Char}
    (delimiter : c ∈ Text.delimiters) (rest : List Char) :
    Text.Delimited (spacing.lineBreak depth ++ c :: rest) := by
  cases spacing with
  | compact => exact Text.delimited_cons rest delimiter
  | pretty => exact Text.delimited_cons _ (by decide)

/-! ## Arrays -/

section Items

variable {fuel : Nat} {mayClose : Bool} {text behind rest : List Char} {item : Json}
  {others : List Json}

theorem items_of_last (noBracket : ∀ tail, text ≠ ']' :: tail)
    (read : value fuel text = some (item, behind))
    (closed : skipSpace behind = ']' :: rest) :
    items (fuel + 1) mayClose text = some ([item], rest) := by
  cases mayClose <;> simp [items, noBracket, read, closed]

theorem items_of_next {following : List Char} (noBracket : ∀ tail, text ≠ ']' :: tail)
    (read : value fuel text = some (item, behind))
    (comma : skipSpace behind = ',' :: following)
    (more : items fuel false (skipSpace following) = some (others, rest)) :
    items (fuel + 1) mayClose text = some (item :: others, rest) := by
  cases mayClose <;> simp [items, noBracket, read, comma, more]

theorem items_written (readable : ∀ v ∈ item :: others, ReadsBack spacing depth v)
    (mayClose : Bool) (closing fuel : Nat) (rest : List Char)
    (enough : (item.written spacing depth).length
      + (writtenItems spacing depth others).length < fuel) :
    items fuel mayClose (item.written spacing depth
        ++ (writtenItems spacing depth others
          ++ (spacing.lineBreak closing ++ ']' :: rest))) =
      some (item :: others, rest) := by
  obtain ⟨fuel, rfl⟩ := Nat.exists_eq_succ_of_ne_zero (Nat.ne_zero_of_lt enough)
  have head : ReadsBack spacing depth item := readable item List.mem_cons_self
  induction others generalizing item mayClose fuel with
  | nil =>
      apply items_of_last (head.noBracket _) (head.read fuel _ _ (by omega))
      · exact skipSpace_lineBreak spacing closing rfl rest
      · exact delimited_lineBreak spacing closing (by decide) rest
  | cons next others induction =>
      have following : ∀ v ∈ next :: others, ReadsBack spacing depth v :=
        fun v inside => readable v (List.mem_cons_of_mem _ inside)
      have nextReads := following next List.mem_cons_self
      simp only [writtenItems, List.length_cons, List.length_append] at enough
      simp only [writtenItems, List.cons_append, List.append_assoc]
      apply items_of_next (head.noBracket _) (head.read fuel _ _ (by omega))
      · exact skipSpace_cons rfl _
      · rw [nextReads.skipSpace_lineBreak depth]
        obtain ⟨fuel, rfl⟩ := Nat.exists_eq_succ_of_ne_zero (n := fuel) (by omega)
        exact induction following false fuel (by omega) nextReads
      · exact Text.delimited_cons _ (by decide)

end Items

/-! ## Objects -/

section Members

variable {fuel : Nat} {mayClose : Bool} {behind rest : List Char} {v : Json}
  {others : List (String × Json)}

theorem ReadsBack.skipSpace_colon (readable : ReadsBack spacing depth v)
    (rest : List Char) :
    ∃ behindColon,
      skipSpace (spacing.colon ++ (v.written spacing depth ++ rest)) = ':' :: behindColon ∧
        skipSpace behindColon = v.written spacing depth ++ rest := by
  obtain ⟨c, tail, written, solid, _⟩ := readable.start
  rw [written]
  cases spacing with
  | compact => exact ⟨_, skipSpace_cons rfl _, skipSpace_cons solid _⟩
  | pretty =>
      refine ⟨' ' :: c :: (tail ++ rest), skipSpace_cons rfl _, ?_⟩
      exact skipSpace_cons solid _

theorem ReadsBack.members_of_last (readable : ReadsBack spacing depth v) (key : String)
    (closed : skipSpace behind = '}' :: rest) (delimited : Text.Delimited behind)
    (enough : (v.written spacing depth).length ≤ fuel) :
    members (fuel + 1) mayClose
        (quoted key.toList ++ (spacing.colon ++ (v.written spacing depth ++ behind))) =
      some ([(key, v)], rest) := by
  obtain ⟨behindColon, colon, start⟩ := readable.skipSpace_colon behind
  have read := readable.read fuel behind delimited enough
  rw [← start] at read
  rw [quoted, List.append_assoc, List.cons_append]
  cases mayClose <;> simp [members, stringRest_quoted, colon, read, closed]

theorem ReadsBack.members_of_next (readable : ReadsBack spacing depth v) (key : String)
    {following : List Char} (comma : skipSpace behind = ',' :: following)
    (more : members fuel false (skipSpace following) = some (others, rest))
    (delimited : Text.Delimited behind)
    (enough : (v.written spacing depth).length ≤ fuel) :
    members (fuel + 1) mayClose
        (quoted key.toList ++ (spacing.colon ++ (v.written spacing depth ++ behind))) =
      some ((key, v) :: others, rest) := by
  obtain ⟨behindColon, colon, start⟩ := readable.skipSpace_colon behind
  have read := readable.read fuel behind delimited enough
  rw [← start] at read
  rw [quoted, List.append_assoc, List.cons_append]
  cases mayClose <;> simp [members, stringRest_quoted, colon, read, comma, more]

theorem members_written {key : String}
    (readable : ∀ member ∈ (key, v) :: others, ReadsBack spacing depth member.2)
    (mayClose : Bool) (closing fuel : Nat) (rest : List Char)
    (enough : (v.written spacing depth).length
      + (writtenMembers spacing depth others).length < fuel) :
    members fuel mayClose (quoted key.toList
        ++ (spacing.colon
          ++ (v.written spacing depth
            ++ (writtenMembers spacing depth others
              ++ (spacing.lineBreak closing ++ '}' :: rest))))) =
      some ((key, v) :: others, rest) := by
  obtain ⟨fuel, rfl⟩ := Nat.exists_eq_succ_of_ne_zero (Nat.ne_zero_of_lt enough)
  have head : ReadsBack spacing depth v := readable (key, v) List.mem_cons_self
  induction others generalizing key v mayClose fuel with
  | nil =>
      apply head.members_of_last key
      · exact skipSpace_lineBreak spacing closing rfl rest
      · exact delimited_lineBreak spacing closing (by decide) rest
      · omega
  | cons next others induction =>
      obtain ⟨nextKey, nextValue⟩ := next
      have following : ∀ member ∈ (nextKey, nextValue) :: others,
          ReadsBack spacing depth member.2 :=
        fun member inside => readable member (List.mem_cons_of_mem _ inside)
      simp only [writtenMembers, List.length_cons, List.length_append] at enough
      obtain ⟨fuel, rfl⟩ := Nat.exists_eq_succ_of_ne_zero (n := fuel) (by omega)
      have more := induction following false fuel (by omega)
        (following _ List.mem_cons_self)
      simp only [writtenMembers, List.cons_append, List.append_assoc]
      apply head.members_of_next key (skipSpace_cons rfl _)
      · rw [quoted, List.append_assoc, List.cons_append] at more ⊢
        rw [skipSpace_lineBreak spacing depth rfl]
        exact more
      · exact Text.delimited_cons _ (by decide)
      · omega

end Members

/-! ## Whole values -/

theorem readsBack_of_word {v : Json} {c : Char} {tail : List Char}
    (written : v.written spacing depth = c :: tail) (solid : isSpace c = false)
    (noBracket : c ≠ ']')
    (read : ∀ fuel rest, tail.length ≤ fuel →
      value (fuel + 1) (c :: (tail ++ rest)) = some (v, rest)) :
    ReadsBack spacing depth v := by
  refine ⟨⟨c, tail, written, solid, noBracket⟩, ?_⟩
  intro fuel rest _ enough
  rw [written] at enough ⊢
  obtain ⟨fuel, rfl⟩ := Nat.exists_eq_succ_of_ne_zero (Nat.ne_zero_of_lt enough)
  exact read fuel rest (Nat.le_of_succ_le_succ enough)

/-- A character that is neither a quote, a bracket nor a letter starts a number. -/
theorem value_of_number {c : Char} (first : c.isDigit = true ∨ c = '-') (fuel : Nat)
    (rest : List Char) : value (fuel + 1) (c :: rest) = number (c :: rest) := by
  have noQuote : c ≠ '"' := by rintro rfl; simp_all
  have noArray : c ≠ '[' := by rintro rfl; simp_all
  have noObject : c ≠ '{' := by rintro rfl; simp_all
  have noNull : c ≠ 'n' := by rintro rfl; simp_all
  have noTrue : c ≠ 't' := by rintro rfl; simp_all
  have noFalse : c ≠ 'f' := by rintro rfl; simp_all
  simp [value, noQuote, noArray, noObject, noNull, noTrue, noFalse]

theorem isSpace_of_number {c : Char} (first : c.isDigit = true ∨ c = '-') :
    isSpace c = false := by
  rw [Bool.eq_false_iff]
  intro space
  simp only [isSpace, Bool.or_eq_true, decide_eq_true_eq] at space
  rcases space with ((rfl | rfl) | rfl) | rfl <;> simp_all

theorem readsBack_integer {n : Int} (exact : (integer n).Exact) :
    ReadsBack spacing depth (.integer n) := by
  obtain ⟨c, tail, written, first⟩ := Numeral.signed_start n
  have noBracket : c ≠ ']' := by
    rintro rfl
    simp_all
  refine ⟨⟨c, tail, written, isSpace_of_number first, noBracket⟩, ?_⟩
  intro fuel rest delimited enough
  have text : Json.written spacing depth (.integer n) = c :: tail := written
  have read := number_signed exact delimited
  rw [text] at enough ⊢
  rw [written] at read
  obtain ⟨fuel, rfl⟩ := Nat.exists_eq_succ_of_ne_zero (Nat.ne_zero_of_lt enough)
  rw [List.cons_append, value_of_number first]
  exact read

theorem readsBack_string (text : String) : ReadsBack spacing depth (.string text) := by
  refine readsBack_of_word (c := '"') rfl rfl (by decide) ?_
  intro fuel rest _
  simp [value, stringRest_quoted]

theorem readsBack_array {items : List Json}
    (readable : ∀ v ∈ items, ReadsBack spacing (depth + 1) v) :
    ReadsBack spacing depth (.array items) := by
  cases items with
  | nil =>
      refine readsBack_of_word (c := '[') rfl rfl (by decide) ?_
      intro fuel rest enough
      obtain ⟨fuel, rfl⟩ := Nat.exists_eq_succ_of_ne_zero (Nat.ne_zero_of_lt enough)
      rfl
  | cons item items =>
      have head := readable item List.mem_cons_self
      refine ⟨⟨'[', _, rfl, rfl, by decide⟩, ?_⟩
      intro fuel rest _ enough
      simp only [Json.written, List.cons_append, List.append_assoc, List.length_cons,
        List.length_append, List.nil_append] at enough ⊢
      obtain ⟨fuel, rfl⟩ := Nat.exists_eq_succ_of_ne_zero (Nat.ne_zero_of_lt enough)
      have read := items_written readable true depth fuel rest (by omega)
      rw [value, head.skipSpace_lineBreak, read]
      rfl

theorem readsBack_object {members : List (String × Json)}
    (readable : ∀ member ∈ members, ReadsBack spacing (depth + 1) member.2) :
    ReadsBack spacing depth (.object members) := by
  cases members with
  | nil =>
      refine readsBack_of_word (c := '{') rfl rfl (by decide) ?_
      intro fuel rest enough
      obtain ⟨fuel, rfl⟩ := Nat.exists_eq_succ_of_ne_zero (Nat.ne_zero_of_lt enough)
      rfl
  | cons member members =>
      obtain ⟨key, v⟩ := member
      refine ⟨⟨'{', _, rfl, rfl, by decide⟩, ?_⟩
      intro fuel rest _ enough
      simp only [Json.written, List.cons_append, List.append_assoc, List.length_cons,
        List.length_append, List.nil_append] at enough ⊢
      obtain ⟨fuel, rfl⟩ := Nat.exists_eq_succ_of_ne_zero (Nat.ne_zero_of_lt enough)
      have read := members_written readable true depth fuel rest (by omega)
      rw [quoted, List.append_assoc, List.cons_append] at read ⊢
      rw [value, skipSpace_lineBreak spacing _ rfl, read]
      rfl

mutual

theorem readsBack_of_exact (v : Json) (exact : v.Everywhere Exact)
    (spacing : Spacing) (depth : Nat) : ReadsBack spacing depth v := by
  cases v with
  | null => exact readsBack_of_word (c := 'n') rfl rfl (by decide) fun _ _ _ => rfl
  | boolean value =>
      cases value with
      | true => exact readsBack_of_word (c := 't') rfl rfl (by decide) fun _ _ _ => rfl
      | false => exact readsBack_of_word (c := 'f') rfl rfl (by decide) fun _ _ _ => rfl
  | integer n => exact readsBack_integer exact
  | float number => exact absurd exact id
  | string text => exact readsBack_string text
  | array items =>
      exact readsBack_array (readsBack_items_of_exact items exact.2 spacing (depth + 1))
  | object members =>
      exact readsBack_object
        (readsBack_members_of_exact members exact.2 spacing (depth + 1))

theorem readsBack_items_of_exact (items : List Json)
    (exact : EverywhereItems Exact items) (spacing : Spacing) (depth : Nat) :
    ∀ v ∈ items, ReadsBack spacing depth v := by
  intro v inside
  cases items with
  | nil => contradiction
  | cons item items =>
      rcases List.mem_cons.mp inside with rfl | later
      · exact readsBack_of_exact v exact.1 spacing depth
      · exact readsBack_items_of_exact items exact.2 spacing depth v later

theorem readsBack_members_of_exact (members : List (String × Json))
    (exact : EverywhereMembers Exact members) (spacing : Spacing) (depth : Nat) :
    ∀ member ∈ members, ReadsBack spacing depth member.2 := by
  intro member inside
  cases members with
  | nil => contradiction
  | cons first members =>
      obtain ⟨key, v⟩ := first
      rcases List.mem_cons.mp inside with rfl | later
      · exact readsBack_of_exact v exact.1 spacing depth
      · exact readsBack_members_of_exact members exact.2 spacing depth member later

end

/-- The text of a value, however spaced, is read as that value, whatever white space
follows it. -/
theorem parse?_written_append {v : Json} (exact : v.Everywhere Exact) (spacing : Spacing)
    {behind : List Char} (delimited : Text.Delimited behind) (blank : skipSpace behind = []) :
    parse? (.ofList (v.written spacing 0 ++ behind)) = some v := by
  obtain ⟨⟨c, tail, written, solid, _⟩, read⟩ := readsBack_of_exact v exact spacing 0
  have enough : (v.written spacing 0).length ≤
      2 * (v.written spacing 0 ++ behind).length + 2 := by
    rw [List.length_append]
    omega
  have value := read _ behind delimited enough
  have start : skipSpace (v.written spacing 0 ++ behind) = v.written spacing 0 ++ behind := by
    rw [written, List.cons_append, skipSpace_cons solid]
  simp only [parse?, String.toList_ofList, start, value, blank, Option.bind_eq_bind,
    Option.bind_some]
  rfl

theorem parse?_written {v : Json} (exact : v.Everywhere Exact) (spacing : Spacing) :
    parse? (.ofList (v.written spacing 0)) = some v := by
  have read := parse?_written_append exact spacing Text.delimited_nil rfl
  rwa [List.append_nil] at read

end UserRegistry.Json
