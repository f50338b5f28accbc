import UserRegistry.Proofs.LineReaders

/-!
# Line ends and gaps as they are written

`AsWritten` holds readers of a text as it is written.  They take a line end of either
spelling where the readers of unified text take a line feed: at the end of a line,
behind a backslash that ends its line, directly behind opening quotes, and in the gaps
between the items of an array.
-/

namespace UserRegistry.Toml

/-! ## Blanks and comments -/

theorem skipBlanks_unify (text : List Char) :
    skipBlanks (unifyLineEnds text) = unifyLineEnds (skipBlanks text) :=
  dropWhile_unify isBlank rfl rfl text

theorem length_skipBlanks_le (text : List Char) : (skipBlanks text).length ≤ text.length :=
  (List.dropWhile_sublist _).length_le

theorem inLine_skipBlanks : SkipsAlike skipBlanks skipBlanks where
  unify := skipBlanks_unify
  onward := length_skipBlanks_le

theorem ReadsAlike.afterBlanks {α : Type} {written read : Reader α}
    (alike : ReadsAlike written read) :
    ReadsAlike (fun text => written (skipBlanks text)) fun text => read (skipBlanks text) :=
  .after inLine_skipBlanks alike

theorem InLine.afterBlanks {α : Type} {read : Reader α} (inLine : InLine read) :
    InLine fun text => read (skipBlanks text) :=
  .after inLine_skipBlanks inLine

theorem skipComment_unify (text : List Char) :
    skipComment (unifyLineEnds text) = unifyLineEnds (skipComment text) := by
  have whole : ∀ text, ¬ ['#'] <+: text → skipComment text = text := by
    intro text free
    unfold skipComment
    split <;> simp_all
  by_cases comment : ['#'] <+: text
  · obtain ⟨rest, rfl⟩ := comment
    rw [unifyLineEnds_append (by decide)]
    exact dropWhile_unify isPlain rfl rfl rest
  · rw [whole text comment, whole _ fun found => comment (prefix_of_unify (by decide) found)]

theorem length_skipComment_le (text : List Char) : (skipComment text).length ≤ text.length := by
  unfold skipComment
  split
  · exact Nat.le_succ_of_le (List.dropWhile_sublist _).length_le
  · exact Nat.le_refl _

/-! ## Line ends and gaps as they are written -/

namespace AsWritten

/-- The text behind a line end of either spelling. -/
def newline? : List Char → Option (List Char)
  | '\n' :: rest => some rest
  | '\r' :: '\n' :: rest => some rest
  | _ => none

def skipGap (inComment : Bool) : List Char → List Char
  | [] => []
  | '\r' :: '\n' :: rest => skipGap false rest
  | c :: rest =>
    if c = '\n' then skipGap false rest
    else if inComment then (if isPlain c then skipGap true rest else c :: rest)
    else if c = '#' then skipGap true rest
    else if isBlank c then skipGap false rest
    else c :: rest

def endsLine (text : List Char) : Bool :=
  (newline? (skipBlanks text)).isSome

def dropNewline (text : List Char) : List Char :=
  (newline? text).getD text

end AsWritten

/-- The text behind a line feed. -/
def lineFeed? : List Char → Option (List Char)
  | '\n' :: rest => some rest
  | _ => none

theorem lineFeed?_eq_none {text : List Char} (free : ∀ rest, text = '\n' :: rest → False) :
    lineFeed? text = none := by
  unfold lineFeed?
  split
  · exact absurd rfl (free _)
  · rfl

/-- A line feed of the unified text is a line end of the written one. -/
theorem lineFeed?_unify (text : List Char) :
    lineFeed? (unifyLineEnds text) = (AsWritten.newline? text).map unifyLineEnds := by
  cases spelling text with
  | nil => rfl
  | pair rest =>
      rw [unifyLineEnds_pair]
      rfl
  | single c rest kept =>
      rw [kept]
      unfold AsWritten.newline?
      split
      · rename_i equality
        cases equality
        rfl
      · rename_i equality
        cases equality
        rw [unifyLineEnds_pair] at kept
        cases kept
      · rename_i noLineFeed _
        refine lineFeed?_eq_none fun behind equality => noLineFeed rest ?_
        rw [(List.cons.inj equality).1]

theorem endsLine_eq (text : List Char) :
    endsLine text = (lineFeed? (skipBlanks text)).isSome := by
  unfold endsLine lineFeed?
  split
  · rename_i equality
    simp [equality]
  · rename_i free
    cases equality : skipBlanks text with
    | nil => rfl
    | cons c rest =>
        have noLineFeed : c ≠ '\n' := by
          rintro rfl
          exact free rest equality
        simp [noLineFeed]

theorem endsLine_unify (text : List Char) :
    endsLine (unifyLineEnds text) = AsWritten.endsLine text := by
  rw [endsLine_eq, skipBlanks_unify, lineFeed?_unify, Option.isSome_map, AsWritten.endsLine]

theorem dropLineFeed_eq (text : List Char) : dropLineFeed text = (lineFeed? text).getD text := by
  unfold dropLineFeed
  split
  · rfl
  · rename_i free
    rw [lineFeed?_eq_none free, Option.getD_none]

theorem alike_dropNewline : SkipsAlike AsWritten.dropNewline dropLineFeed where
  unify := by
    intro text
    rw [dropLineFeed_eq, lineFeed?_unify, AsWritten.dropNewline]
    cases AsWritten.newline? text <;> rfl
  onward := by
    intro text
    unfold dropLineFeed
    split
    · exact Nat.le_succ _
    · exact Nat.le_refl _

theorem alike_skipGap (inComment : Bool) :
    SkipsAlike (AsWritten.skipGap inComment) (skipGap inComment) where
  unify := by
    intro text
    fun_induction AsWritten.skipGap inComment text with
    | case1 => rfl
    | case2 inComment rest induction => rw [unifyLineEnds_pair, skipGap, if_pos rfl, induction]
    | case3 inComment rest single induction =>
        rw [unifyLineEnds_of_single single, skipGap, if_pos rfl, induction]
    | case4 c rest single noLineFeed plain induction =>
        rw [unifyLineEnds_of_single single, skipGap, if_neg noLineFeed, if_pos rfl, if_pos plain,
          induction]
    | case5 c rest single noLineFeed closed =>
        rw [unifyLineEnds_of_single single, skipGap, if_neg noLineFeed, if_pos rfl,
          if_neg closed]
    | case6 inComment rest noComment single noLineFeed induction =>
        rw [unifyLineEnds_of_single single, skipGap, if_neg noLineFeed, if_neg noComment,
          if_pos rfl, induction]
    | case7 inComment c rest single noLineFeed noComment other blank induction =>
        rw [unifyLineEnds_of_single single, skipGap, if_neg noLineFeed, if_neg noComment,
          if_neg other, if_pos blank, induction]
    | case8 inComment c rest single noLineFeed noComment other solid =>
        rw [unifyLineEnds_of_single single, skipGap, if_neg noLineFeed, if_neg noComment,
          if_neg other, if_neg solid]
  onward := by
    intro text
    fun_induction skipGap inComment text with
    | case1 => exact Nat.le_refl _
    | case2 inComment rest induction => exact Nat.le_succ_of_le induction
    | case3 c rest noLineFeed plain induction => exact Nat.le_succ_of_le induction
    | case4 c rest noLineFeed closed => exact Nat.le_refl _
    | case5 inComment rest noComment noLineFeed induction => exact Nat.le_succ_of_le induction
    | case6 inComment c rest noLineFeed noComment other blank induction =>
        exact Nat.le_succ_of_le induction
    | case7 inComment c rest noLineFeed noComment other solid => exact Nat.le_refl _

end UserRegistry.Toml
