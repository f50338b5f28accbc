import UserRegistry.Proofs.DigitRows
import UserRegistry.Toml.Printer
import UserRegistry.Toml.Value

/-!
# Written TOML text reads back

A quoted text ends at its own closing quote, whatever it holds: every character that
could end it is escaped, and so is every character that may not stand in it.  Behind a
quoted text only another quote could be taken for a part of it, and no delimiter is
one.
-/

namespace UserRegistry.Toml

variable {rest : List Char}

/-! ## Blanks -/

theorem skipBlanks_cons {c : Char} (solid : isBlank c = false) (rest : List Char) :
    skipBlanks (c :: rest) = c :: rest := by
  rw [skipBlanks, List.dropWhile_cons_of_neg (by simp [solid])]

theorem skipBlanks_space (rest : List Char) : skipBlanks (' ' :: rest) = skipBlanks rest := by
  rw [skipBlanks, List.dropWhile_cons_of_pos rfl, skipBlanks]

theorem skipGap_space (rest : List Char) :
    skipGap false (' ' :: rest) = skipGap false rest :=
  rfl

theorem skipGap_cons {c : Char} (solid : isBlank c = false) (noLineFeed : c ≠ '\n')
    (noComment : c ≠ '#') (rest : List Char) : skipGap false (c :: rest) = c :: rest := by
  simp [skipGap, solid, noLineFeed, noComment]

/-! ## Strings -/

theorem basicRest_letter {letter c : Char} (known : unescaped? letter = some c)
    (rest : List Char) :
    basicRest false false ('\\' :: letter :: rest) =
      keep (some c) (basicRest false false rest) := by
  have noCode : letter ≠ 'u' := by
    rintro rfl
    contradiction
  have noLongCode : letter ≠ 'U' := by
    rintro rfl
    contradiction
  rw [basicRest.eq_def]
  simp [noCode, noLongCode, known]

theorem basicRest_code {c : Char} (control : c.toNat < 0x20 ∨ c.toNat = 0x7F)
    (rest : List Char) :
    basicRest false false ('\\' :: 'u' :: '0' :: '0' :: (c.toNat / 16).digitChar ::
        (c.toNat % 16).digitChar :: rest) =
      keep (some c) (basicRest false false rest) := by
  have code := Numeral.read?_hexadecimal c.toNat (by omega)
  rw [basicRest.eq_def]
  simp [unicode?, code, Text.scalar?_toNat]

theorem basicRest_plain {c : Char} (noQuote : c ≠ '"') (noEscape : c ≠ '\\')
    (printable : ¬ (c.toNat < 0x20 ∨ c.toNat = 0x7F)) (rest : List Char) :
    basicRest false false (c :: rest) = keep (some c) (basicRest false false rest) := by
  have basic : isBasic c = true := by
    simp only [isBasic, isPlain]
    simp [noQuote, noEscape]
    omega
  rw [basicRest.eq_def]
  simp [noQuote, noEscape, basic]

theorem basicRest_escaped (c : Char) (rest : List Char) :
    basicRest false false (escaped c ++ rest) =
      keep (some c) (basicRest false false rest) := by
  unfold escaped
  split
  · subst c
    exact basicRest_letter rfl rest
  split
  · subst c
    exact basicRest_letter rfl rest
  split
  · rename_i control
    exact basicRest_code control rest
  · rename_i noQuote noEscape printable
    exact basicRest_plain noQuote noEscape printable rest

theorem basicRest_quoted (text rest : List Char) :
    basicRest false false (text.flatMap escaped ++ '"' :: rest) = some (text, rest) := by
  induction text with
  | nil => simp [basicRest.eq_def]
  | cons c text induction =>
      rw [List.flatMap_cons, List.append_assoc, basicRest_escaped, induction]
      rfl

theorem escaped_start (c : Char) : ∃ first tail, escaped c = first :: tail ∧ first ≠ '"' := by
  unfold escaped
  split
  · exact ⟨_, _, rfl, by decide⟩
  split
  · exact ⟨_, _, rfl, by decide⟩
  split
  · exact ⟨_, _, rfl, by decide⟩
  · rename_i noQuote _ _
    exact ⟨_, _, rfl, noQuote⟩

theorem noReturn_quoted (text : String) : '\r' ∉ quoted text := by
  have digits : ∀ digit < 16, digit.digitChar ≠ '\r' := by decide
  have noReturn : ∀ c, '\r' ∉ escaped c := by
    intro c
    unfold escaped
    split
    · decide
    split
    · decide
    split
    · have high := digits (c.toNat / 16) (by omega)
      have low := digits (c.toNat % 16) (by omega)
      simp [high.symm, low.symm]
    · rename_i printable
      rw [List.mem_singleton]
      rintro rfl
      exact printable (by decide)
  simp [quoted, noReturn]

/-- A quoted text does not open a string of several lines. -/
theorem string?_quoted (text : String) (noQuote : rest.head? ≠ some '"') :
    string? (quoted text ++ rest) = some (text.toList, rest) := by
  rw [quoted, List.append_assoc, List.cons_append, List.singleton_append]
  rw [← basicRest_quoted text.toList rest]
  -- after two quotes, which are an empty text, the third would be the first of `rest`
  cases text.toList with
  | nil =>
      rw [List.flatMap_nil, List.nil_append]
      unfold string?
      split <;> simp_all
  | cons c text =>
      obtain ⟨first, tail, escapedC, noQuote⟩ := escaped_start c
      rw [List.flatMap_cons, escapedC]
      unfold string?
      split <;> simp_all

/-! ## Keys -/

/-- A text that is read as a key of one part when a blank and an equals sign follow. -/
structure ReadsAsKey (text : List Char) (name : String) : Prop where
  start : ∃ c tail, text = c :: tail ∧ isBlank c = false ∧ c ≠ '\n' ∧ c ≠ '#' ∧ c ≠ '['
  noReturn : '\r' ∉ text
  read : ∀ rest, key? (text ++ ' ' :: '=' :: rest) = some ([name], '=' :: rest)

theorem key?_of_part {text : List Char} {name : String}
    (read : keyPart? (skipBlanks text) = some (name, ' ' :: '=' :: rest)) :
    key? text = some ([name], '=' :: rest) := by
  have point : skipBlanks (' ' :: '=' :: rest) = '=' :: rest := by
    rw [skipBlanks_space, skipBlanks_cons rfl]
  rw [key?, nestingLimit, keyParts?, read]
  simp [point]

theorem key?_space (text : List Char) : key? (' ' :: text) = key? text := by
  rw [key?, key?, nestingLimit, keyParts?, skipBlanks_space, keyParts?]

theorem readsAsKey_quoted (name : String) : ReadsAsKey (quoted name) name := by
  refine ⟨⟨'"', _, rfl, by decide⟩, noReturn_quoted name, ?_⟩
  intro rest
  apply key?_of_part
  rw [quoted, List.append_assoc, List.cons_append, skipBlanks_cons rfl,
    List.singleton_append, keyPart?, basicRest_quoted]
  simp

theorem readsAsKey_bare (name : String) (nonempty : name.toList ≠ [])
    (allBare : name.toList.all isBareKey = true) : ReadsAsKey name.toList name := by
  have bare : ∀ c ∈ name.toList, isBareKey c = true := List.all_eq_true.mp allBare
  obtain ⟨c, tail, written⟩ := List.exists_cons_of_ne_nil nonempty
  have first : isBareKey c = true := bare c (written ▸ List.mem_cons_self)
  have solid : ∀ other, isBareKey other = false → c ≠ other := by
    rintro other refused rfl
    exact Bool.false_ne_true (refused.symm.trans first)
  have notBlank : isBlank c = false := by
    simp [isBlank, solid ' ' rfl, solid '\t' rfl]
  refine ⟨⟨c, tail, written, notBlank, solid _ rfl, solid _ rfl, solid _ rfl⟩,
    fun inside => absurd (bare '\r' inside) (by decide), ?_⟩
  intro rest
  apply key?_of_part
  have taken : (name.toList ++ ' ' :: '=' :: rest).takeWhile isBareKey = name.toList := by
    rw [List.takeWhile_append_of_pos bare, List.takeWhile_cons_of_neg (by decide),
      List.append_nil]
  have dropped : (name.toList ++ ' ' :: '=' :: rest).dropWhile isBareKey =
      ' ' :: '=' :: rest := by
    rw [List.dropWhile_append_of_pos bare, List.dropWhile_cons_of_neg (by decide)]
  have start : skipBlanks (name.toList ++ ' ' :: '=' :: rest) =
      name.toList ++ ' ' :: '=' :: rest := by
    rw [written, List.cons_append, skipBlanks_cons notBlank]
  rw [start]
  unfold keyPart?
  split
  · rename_i equality
    rw [written] at equality
    exact absurd (List.cons.inj equality).1 (solid _ rfl)
  · rename_i equality
    rw [written] at equality
    exact absurd (List.cons.inj equality).1 (solid _ rfl)
  · rw [taken, dropped]
    simp [nonempty]

/-! ## Integers -/

section Integers

variable {digits : List Char}

theorem moreDigits_of_digits (isDigit : ∀ c ∈ digits, c.isDigit = true)
    (delimited : Text.Delimited rest) :
    moreDigits 10 (digits ++ rest) = (digits.map fun c => c.toNat - '0'.toNat, rest) := by
  induction digits with
  | nil =>
      cases rest with
      | nil => rfl
      | cons c rest =>
          have delimiter := delimited c rfl
          have noSeparator : c ≠ '_' := by
            rintro rfl
            exact absurd delimiter (by decide)
          rw [List.nil_append, moreDigits.eq_4 10 c rest noSeparator,
            Numeral.digit?_delimiter c delimiter]
          rfl
  | cons c digits induction =>
      have digit := isDigit c List.mem_cons_self
      have noSeparator : c ≠ '_' := by
        rintro rfl
        contradiction
      have others := induction fun d inside => isDigit d (List.mem_cons_of_mem c inside)
      rw [List.cons_append, moreDigits.eq_4 10 c _ noSeparator,
        Numeral.digit?_of_isDigit digit, others]
      rfl

theorem whole?_decimal (n : Nat) (delimited : Text.Delimited rest) :
    ∃ values, whole? (Numeral.decimal n ++ rest) = some (values, rest) ∧
      Numeral.ofDigits 10 values = n := by
  refine ⟨(Numeral.decimal n).map fun c => c.toNat - '0'.toNat, ?_, ?_⟩
  · obtain ⟨c, digits, written⟩ := List.exists_cons_of_ne_nil (Numeral.decimal_ne_nil n)
    by_cases zero : c = '0'
    · subst c
      have alone := Numeral.decimal_of_head?_zero (n := n) (by rw [written]; rfl)
      rw [alone]
      rfl
    · have isDigit : ∀ d ∈ c :: digits, d.isDigit = true :=
        fun d inside => Numeral.isDigit_of_mem_decimal (written ▸ inside)
      have others := moreDigits_of_digits
        (fun d inside => isDigit d (List.mem_cons_of_mem c inside)) delimited
      rw [written, List.cons_append, whole?.eq_2 _ fun rest equality =>
        zero (List.cons.inj equality).1]
      simp [digits?, Numeral.digit?_of_isDigit (isDigit c List.mem_cons_self), others]
  · rw [Numeral.ofDigits, List.foldl_map]
    exact Numeral.ofDigitChars_decimal n

theorem fraction?_of_delimited (delimited : Text.Delimited rest) :
    fraction? rest = some ([], rest) := by
  unfold fraction?
  split
  · exact absurd (delimited '.' rfl) (by decide)
  · rfl

theorem exponent?_of_delimited (delimited : Text.Delimited rest) :
    exponent? rest = some (none, rest) := by
  cases rest with
  | nil => rfl
  | cons c rest =>
      have noExponent : ¬ (c = 'e' ∨ c = 'E') := by
        rintro (rfl | rfl)
        · exact absurd (delimited 'e' rfl) (by decide)
        · exact absurd (delimited 'E' rfl) (by decide)
      rw [exponent?, if_neg noExponent]

theorem decimal?_decimal (negative : Bool) (n : Nat) (delimited : Text.Delimited rest) :
    decimal? negative (Numeral.decimal n ++ rest) =
      (integer? (if negative then -(n : Int) else n)).map (·, rest) := by
  obtain ⟨values, whole, value⟩ := whole?_decimal n delimited
  simp only [decimal?, whole, fraction?_of_delimited delimited,
    exponent?_of_delimited delimited, Option.bind_eq_bind, Option.bind_some, value]
  simp only [List.isEmpty_nil, and_self, if_true]
  cases integer? (if negative then -(n : Int) else n) <;> rfl

theorem signed?_decimal (negative : Bool) (n : Nat) (delimited : Text.Delimited rest) :
    signed? negative (Numeral.decimal n ++ rest) =
      (integer? (if negative then -(n : Int) else n)).map (·, rest) := by
  obtain ⟨c, digits, written⟩ := List.exists_cons_of_ne_nil (Numeral.decimal_ne_nil n)
  have digit : c.isDigit = true :=
    Numeral.isDigit_of_mem_decimal (written ▸ List.mem_cons_self)
  rw [← decimal?_decimal negative n delimited, written]
  unfold signed?
  split
  · rename_i equality
    cases (List.cons.inj equality).1
    contradiction
  · rename_i equality
    cases (List.cons.inj equality).1
    contradiction
  · rfl

theorem integer?_of_bounds {value : Int} (lower : -Numeral.signedBound ≤ value)
    (upper : value < Numeral.signedBound) : integer? value = some (.integer value) :=
  if_pos ⟨lower, upper⟩

theorem noReturn_signed (value : Int) : '\r' ∉ Numeral.signed value := by
  have noReturn (n : Nat) : '\r' ∉ Numeral.decimal n :=
    fun inside => absurd (Numeral.isDigit_of_mem_decimal inside) (by decide)
  cases value with
  | ofNat n => exact noReturn n
  | negSucc n => simp [Numeral.signed, noReturn]

/-! ## Numerals are no date-times -/

/-- Behind some digits of a decimal numeral stands a digit or a delimiter. -/
theorem head?_behind_digits {front behind : List Char}
    (isDigit : ∀ c ∈ digits, c.isDigit = true) (delimited : Text.Delimited rest)
    (frontDigits : ∀ c ∈ front, c.isDigit = true)
    (equality : digits ++ rest = front ++ behind) :
    ∀ c ∈ behind.head?, c.isDigit = true ∨ c ∈ Text.delimiters := by
  intro c first
  rcases List.append_eq_append_iff.mp equality with ⟨middle, rfl, rfl⟩ | ⟨middle, rfl, rfl⟩
  · cases middle with
    | nil => exact .inr (delimited c first)
    | cons d middle =>
        have delimiter := delimited d rfl
        have digit := frontDigits d (by simp)
        rw [Text.isDigit_delimiter d delimiter] at digit
        contradiction
  · cases middle with
    | nil => exact .inr (delimited c first)
    | cons d middle =>
        cases first
        exact .inl (isDigit c (by simp))

/-- A text is no date-time when no dash and no colon stands behind its first digits. -/
theorem literal?_eq_none {text : List Char}
    (undated : ∀ front behind, text = front ++ behind → front ≠ [] →
      (∀ c ∈ front, c.isDigit = true) → ∀ c ∈ behind.head?, c ≠ '-' ∧ c ≠ ':') :
    Datetime.literal? text = none := by
  have noDate : Date.literal? text = none := by
    unfold Date.literal?
    cases taken : Numeral.take? 10 4 text with
    | none => rfl
    | some year =>
        obtain ⟨value, behind⟩ := year
        obtain ⟨front, length, rfl, isDigit⟩ := Numeral.take?_eq_some taken
        have nonempty : front ≠ [] := List.ne_nil_of_length_eq_add_one length
        cases behind with
        | nil => rfl
        | cons c behind =>
            have noDash := (undated front _ rfl nonempty isDigit c rfl).1
            simp [noDash]
  have noTime : Time.literal? text = none := by
    unfold Time.literal?
    cases taken : Numeral.take? 10 2 text with
    | none => rfl
    | some hour =>
        obtain ⟨value, behind⟩ := hour
        obtain ⟨front, length, rfl, isDigit⟩ := Numeral.take?_eq_some taken
        have nonempty : front ≠ [] := List.ne_nil_of_length_eq_add_one length
        cases behind with
        | nil => rfl
        | cons c behind =>
            have noColon := (undated front _ rfl nonempty isDigit c rfl).2
            simp [noColon]
  rw [Datetime.literal?, noDate, noTime]
  rfl

/-! ## Whole numbers -/

theorem number?_decimal (n : Nat) (delimited : Text.Delimited rest) :
    number? (Numeral.decimal n ++ rest) = signed? false (Numeral.decimal n ++ rest) := by
  obtain ⟨c, digits, written⟩ := List.exists_cons_of_ne_nil (Numeral.decimal_ne_nil n)
  have digit : c.isDigit = true :=
    Numeral.isDigit_of_mem_decimal (written ▸ List.mem_cons_self)
  -- a numeral with a leading zero is that zero, so that no letter of a base follows it
  have noBase : ∀ mark tail, mark ∉ Text.delimiters →
      Numeral.decimal n ++ rest ≠ '0' :: mark :: tail := by
    intro mark tail noDelimiter equality
    have zero : (Numeral.decimal n).head? = some '0' := by
      rw [written] at equality ⊢
      rw [(List.cons.inj equality).1]
      rfl
    rw [Numeral.decimal_of_head?_zero zero] at equality
    cases equality
    exact noDelimiter (delimited mark rfl)
  have noSign : sign (Numeral.decimal n ++ rest) = (false, Numeral.decimal n ++ rest) := by
    rw [written]
    apply sign.eq_3
    · rintro tail equality
      cases equality
      contradiction
    · rintro tail equality
      cases equality
      contradiction
  rw [number?.eq_4 _ (fun tail => noBase 'x' tail (by decide))
    (fun tail => noBase 'o' tail (by decide)) (fun tail => noBase 'b' tail (by decide)),
    noSign]

/-- A written integer is read whole, and is refused when it does not fit 64 bits. -/
theorem numberOrDatetime?_signed (value : Int) (delimited : Text.Delimited rest) :
    numberOrDatetime? (Numeral.signed value ++ rest) = (integer? value).map (·, rest) := by
  have isDigit (n : Nat) : ∀ c ∈ Numeral.decimal n, c.isDigit = true :=
    fun c inside => Numeral.isDigit_of_mem_decimal inside
  cases value with
  | ofNat n =>
      have undated : Datetime.literal? (Numeral.decimal n ++ rest) = none := by
        apply literal?_eq_none
        intro front behind equality _ frontDigits c first
        rcases head?_behind_digits (isDigit n) delimited frontDigits equality c first with
          digit | delimiter
        · constructor
          · rintro rfl
            exact absurd digit (by decide)
          · rintro rfl
            exact absurd digit (by decide)
        · constructor
          · rintro rfl
            exact absurd delimiter (by decide)
          · rintro rfl
            exact absurd delimiter (by decide)
      rw [numberOrDatetime?, Numeral.signed, undated]
      simp only
      rw [number?_decimal n delimited, signed?_decimal false n delimited]
      rfl
  | negSucc n =>
      have undated : Datetime.literal? ('-' :: (Numeral.decimal (n + 1) ++ rest)) = none := by
        apply literal?_eq_none
        intro front behind equality nonempty frontDigits
        obtain ⟨c, tail, rfl⟩ := List.exists_cons_of_ne_nil nonempty
        have digit := frontDigits c List.mem_cons_self
        rw [← (List.cons.inj equality).1] at digit
        exact absurd digit (by decide)
      rw [numberOrDatetime?, Numeral.signed, List.cons_append, undated]
      exact signed?_decimal true (n + 1) delimited

end Integers

end UserRegistry.Toml
