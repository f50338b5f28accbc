import UserRegistry.Proofs.DocumentsAsWritten

/-!
# Documents never run out of fuel

Every reader gives back a rest that is no longer than the text it was given, and whatever
is opened takes a character.  Two calls for each character are therefore enough: with
more fuel than that, more fuel changes nothing.  A document is read with as much, so that
it is refused only for what it says, and the two ways of reading it agree although they
count its characters differently.
-/

namespace UserRegistry.Toml

variable {α : Type}

/-- Two readers agree on every text of fewer characters. -/
def SameBelow (count : Nat) (read read' : List Char → Option α) : Prop :=
  ∀ text, text.length < count → read text = read' text

/-- A reader gives back no more than it was given. -/
def Onward (read : Reader α) : Prop :=
  ∀ {text a rest}, read text = some (a, rest) → rest.length ≤ text.length

section Steps

variable {gap : List Char → List Char} {scalar value value' : Reader Value}
  {items items' : Reader (List Value)} {inline inline' : Reader (List (List String × Value))}
  {statement statement' : Reader Statement}
  {statements statements' : List Char → Option (List Statement)} {text rest : List Char}

/-! ## What is left of a text -/

theorem length_of_bindingOf (onward : Onward value) {binding : List String × Value}
    (reads : bindingOf value text = some (binding, rest)) : rest.length < text.length := by
  obtain ⟨⟨path, behind⟩, key, reads⟩ := Option.bind_eq_some_iff.mp reads
  have shorter := inLine_key?.onward key
  dsimp only at reads
  split at reads
  · rename_i behind
    obtain ⟨⟨item, after⟩, inner, result⟩ := Option.bind_eq_some_iff.mp reads
    cases result
    exact Nat.lt_of_le_of_lt (Nat.le_trans (onward inner) (length_skipBlanks_le behind)) shorter
  · cases reads

theorem length_of_statementOf (onward : Onward value) {first : Statement}
    (reads : statementOf value text = some (first, rest)) : rest.length < text.length := by
  unfold statementOf plainStatement at reads
  split at reads
  · obtain ⟨⟨path, behind⟩, header, result⟩ := Option.map_eq_some_iff.mp reads
    cases result
    exact Nat.lt_succ_of_le (Nat.le_succ_of_le ((inLine_headerOf (by decide)).onward header))
  · split at reads
    · obtain ⟨⟨path, behind⟩, header, result⟩ := Option.map_eq_some_iff.mp reads
      cases result
      exact Nat.lt_succ_of_le ((inLine_headerOf (by decide)).onward header)
    · obtain ⟨⟨binding, behind⟩, binds, result⟩ := Option.bind_eq_some_iff.mp reads
      cases result
      exact length_of_bindingOf onward binds

theorem length_of_lineFeed? (ended : lineFeed? text = some rest) : rest.length < text.length := by
  unfold lineFeed? at ended
  split at ended
  · cases ended
    exact Nat.lt_succ_self _
  · cases ended

theorem length_of_lineEndOf (ended : lineEndOf lineFeed? text = some rest) :
    rest.length ≤ (skipComment (skipBlanks text)).length := by
  simp only [lineEndOf] at ended
  split at ended
  · cases ended
    exact Nat.zero_le _
  · exact Nat.le_of_lt (length_of_lineFeed? ended)

/-! ## Steps that read no farther than their parts -/

theorem valueOf_congr (skips : ∀ text, (gap text).length ≤ text.length)
    (sameItems : SameBelow text.length items items')
    (sameInline : SameBelow text.length inline inline') :
    valueOf gap scalar items inline text = valueOf gap scalar items' inline' text := by
  unfold valueOf
  split
  · rename_i rest
    rw [arrayOf, arrayOf, sameItems (gap rest) (Nat.lt_succ_of_le (skips rest))]
  · rename_i rest
    have shorter := Nat.lt_succ_of_le (length_skipBlanks_le rest)
    unfold tableOf
    split
    · rfl
    · rw [filledTable, filledTable, sameInline (skipBlanks rest) shorter]
  · rfl

theorem itemsOf_congr (skips : ∀ text, (gap text).length ≤ text.length) (onward : Onward value)
    (same : value text = value' text) (sameItems : SameBelow text.length items items') :
    itemsOf gap value items text = itemsOf gap value' items' text := by
  unfold itemsOf
  split
  · rfl
  rw [firstItems, firstItems, ← same]
  cases reads : value text with
  | none => rfl
  | some reading =>
      have shorter := Nat.le_trans (skips reading.2) (onward reads)
      simp only [Option.bind_eq_bind, Option.bind_some]
      unfold moreItems
      split
      · rename_i rest equality
        rw [equality, List.length_cons] at shorter
        rw [laterItems, laterItems,
          sameItems (gap rest) (Nat.lt_of_le_of_lt (skips rest) shorter)]
      · rfl
      · rfl

theorem bindingOf_congr (same : SameBelow text.length value value') :
    bindingOf value text = bindingOf value' text := by
  unfold bindingOf
  cases reads : key? text with
  | none => rfl
  | some reading =>
      have shorter := inLine_key?.onward reads
      simp only [Option.bind_eq_bind, Option.bind_some]
      split
      · rename_i behind equality
        rw [equality, List.length_cons] at shorter
        rw [same (skipBlanks behind) (Nat.lt_of_le_of_lt (length_skipBlanks_le behind) shorter)]
      · rfl

theorem bindingsOf_congr (onward : Onward value) (same : SameBelow text.length value value')
    (sameInline : SameBelow text.length inline inline') :
    bindingsOf value inline text = bindingsOf value' inline' text := by
  rw [bindingsOf, bindingsOf, ← bindingOf_congr same]
  cases reads : bindingOf value text with
  | none => rfl
  | some reading =>
      have shorter := Nat.lt_of_le_of_lt (length_skipBlanks_le reading.2)
        (length_of_bindingOf onward reads)
      simp only [Option.bind_eq_bind, Option.bind_some]
      unfold moreBindings
      split
      · rename_i rest equality
        rw [equality, List.length_cons] at shorter
        rw [laterBindings, laterBindings, sameInline rest (Nat.lt_of_succ_lt shorter)]
      · rfl
      · rfl

theorem statementOf_congr (same : SameBelow text.length value value') :
    statementOf value text = statementOf value' text := by
  unfold statementOf plainStatement
  split
  · rfl
  split
  · rfl
  · rw [assignmentOf, assignmentOf, bindingOf_congr same]

theorem statementsOf_congr
    (strict : ∀ {text first rest}, statement text = some (first, rest) →
      rest.length < text.length)
    (same : statement (skipBlanks text) = statement' (skipBlanks text))
    (sameOthers : SameBelow text.length statements statements') :
    statementsOf lineFeed? statement statements text =
      statementsOf lineFeed? statement' statements' text := by
  have shorter := length_skipBlanks_le text
  unfold statementsOf
  dsimp only
  split
  · rfl
  split
  · rename_i rest ended
    exact sameOthers rest (Nat.lt_of_lt_of_le (length_of_lineFeed? ended) shorter)
  split
  · rename_i comment
    cases ended : lineEndOf lineFeed? (skipBlanks text) with
    | none => rfl
    | some rest =>
        -- a comment may reach up to the end of the text, but its mark has been read
        obtain ⟨behind, equality⟩ := comment
        have less : rest.length ≤ behind.length := by
          have left := length_of_lineEndOf ended
          rw [← equality, List.singleton_append] at left
          exact Nat.le_trans left (List.dropWhile_sublist _).length_le
        rw [← equality, List.length_append, List.length_singleton] at shorter
        exact sameOthers rest (by omega)
  · rw [← same]
    cases reads : statement (skipBlanks text) with
    | none => rfl
    | some reading =>
        simp only [Option.bind_eq_bind, Option.bind_some]
        cases ended : lineEndOf lineFeed? reading.2 with
        | none => rfl
        | some rest =>
            have left := length_of_lineEndOf ended
            have comment := length_skipComment_le (skipBlanks reading.2)
            have blanks := length_skipBlanks_le reading.2
            have first := strict reads
            rw [Option.bind_some, Option.bind_some, sameOthers rest (by omega)]

end Steps

/-! ## Enough fuel -/

/-- More fuel than two calls for each character of a text changes nothing. -/
structure EnoughFuel (text : List Char) : Prop where
  value : ∀ {fuel fuel'} depth, 2 * text.length + 1 ≤ fuel → 2 * text.length + 1 ≤ fuel' →
    value? fuel depth text = value? fuel' depth text
  items : ∀ {fuel fuel'} depth, 2 * text.length + 2 ≤ fuel → 2 * text.length + 2 ≤ fuel' →
    items? fuel depth text = items? fuel' depth text
  inline : ∀ {fuel fuel'} depth, 2 * text.length + 2 ≤ fuel → 2 * text.length + 2 ≤ fuel' →
    inline? fuel depth text = inline? fuel' depth text

theorem enoughFuel (text : List Char) : EnoughFuel text := by
  induction length : text.length using Nat.strongRecOn generalizing text with
  | ind count induction =>
      have shorter : ∀ other : List Char, other.length < text.length → EnoughFuel other :=
        fun other less => induction other.length (length ▸ less) other rfl
      have skips : ∀ text, (skipGap false text).length ≤ text.length :=
        (alike_skipGap false).onward
      -- items and bindings start with a value of the same text, which needs one call less
      have value : ∀ {fuel fuel'} depth, 2 * text.length + 1 ≤ fuel →
          2 * text.length + 1 ≤ fuel' → value? fuel depth text = value? fuel' depth text := by
        intro fuel fuel' depth enough enough'
        obtain ⟨fuel, rfl⟩ := Nat.exists_eq_succ_of_ne_zero (n := fuel) (by omega)
        obtain ⟨fuel', rfl⟩ := Nat.exists_eq_succ_of_ne_zero (n := fuel') (by omega)
        cases depth with
        | zero => rw [value?_zero, value?_zero]
        | succ depth =>
            rw [value?_succ, value?_succ]
            exact valueOf_congr skips
              (fun other less => (shorter other less).items depth (by omega) (by omega))
              (fun other less => (shorter other less).inline depth (by omega) (by omega))
      refine ⟨value, ?_, ?_⟩
      · intro fuel fuel' depth enough enough'
        obtain ⟨fuel, rfl⟩ := Nat.exists_eq_succ_of_ne_zero (n := fuel) (by omega)
        obtain ⟨fuel', rfl⟩ := Nat.exists_eq_succ_of_ne_zero (n := fuel') (by omega)
        rw [items?_succ, items?_succ]
        exact itemsOf_congr skips (alike_value? fuel depth).onward
          (value depth (by omega) (by omega))
          (fun other less => (shorter other less).items depth (by omega) (by omega))
      · intro fuel fuel' depth enough enough'
        obtain ⟨fuel, rfl⟩ := Nat.exists_eq_succ_of_ne_zero (n := fuel) (by omega)
        obtain ⟨fuel', rfl⟩ := Nat.exists_eq_succ_of_ne_zero (n := fuel') (by omega)
        rw [inline?_succ, inline?_succ]
        exact bindingsOf_congr (alike_value? fuel depth).onward
          (fun other less => (shorter other less).value depth (by omega) (by omega))
          (fun other less => (shorter other less).inline depth (by omega) (by omega))

theorem statement?_of_enough {fuel fuel' : Nat} {text : List Char}
    (enough : 2 * text.length ≤ fuel) (enough' : 2 * text.length ≤ fuel') :
    statement? fuel text = statement? fuel' text := by
  rw [statement?_eq, statement?_eq]
  exact statementOf_congr fun other less => (enoughFuel other).value _ (by omega) (by omega)

/-- The statements of a text do not depend on the fuel if there is enough of it. -/
theorem statements?_of_enough {fuel fuel' : Nat} (text : List Char)
    (enough : 2 * text.length + 2 ≤ fuel) (enough' : 2 * text.length + 2 ≤ fuel') :
    statements? fuel text = statements? fuel' text := by
  induction length : text.length using Nat.strongRecOn generalizing text fuel fuel' with
  | ind count induction =>
      obtain ⟨fuel, rfl⟩ := Nat.exists_eq_succ_of_ne_zero (n := fuel) (by omega)
      obtain ⟨fuel', rfl⟩ := Nat.exists_eq_succ_of_ne_zero (n := fuel') (by omega)
      have blanks := length_skipBlanks_le text
      rw [statements?_succ, statements?_succ]
      refine statementsOf_congr ?_ (statement?_of_enough (by omega) (by omega)) ?_
      · intro text first rest reads
        rw [statement?_eq] at reads
        exact length_of_statementOf (alike_value? fuel nestingLimit).onward reads
      · intro other less
        exact induction other.length (by omega) other (by omega) (by omega) rfl

/-- A document may be read as it is written, with no regard to how its line ends are
spelled beforehand. -/
theorem document?_eq_asWritten (text : List Char) :
    document? text = AsWritten.document? text := by
  have shorter := length_unifyLineEnds_le (dropByteOrderMark text)
  rw [document?, AsWritten.document?, ← statements?_unify]
  rw [statements?_of_enough (unifyLineEnds (dropByteOrderMark text)) (Nat.le_refl _)]
  omega

end UserRegistry.Toml
