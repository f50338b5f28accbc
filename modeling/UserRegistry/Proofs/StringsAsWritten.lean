import UserRegistry.Proofs.GapsAsWritten

/-!
# Strings and keys as they are written

A string on several lines takes each line end as one line feed, and leaves it out while
it trims, whichever way it is spelled.  The text between line ends is read by the same
steps as in unified text.  Keys and strings on one line hold no line end at all.
-/

namespace UserRegistry.Toml

/-! ## Escapes -/

/-- Reads what an escape stands for, behind its backslash. -/
def escape? : Reader Char
  | 'u' :: rest => do
    let (code, rest) ← Numeral.take? 16 4 rest
    let c ← Text.scalar? code
    some (c, rest)
  | 'U' :: rest => do
    let (code, rest) ← Numeral.take? 16 8 rest
    let c ← Text.scalar? code
    some (c, rest)
  | letter :: rest => (unescaped? letter).map fun c => (c, rest)
  | [] => none

/-- Reads the letter that an escape of two characters ends with. -/
def letter? : Reader Char
  | [] => none
  | letter :: rest => (unescaped? letter).map fun c => (c, rest)

theorem inLine_letter? : InLine letter? := by
  refine .ofFronts (fun front => ∃ letter c, front = [letter] ∧ unescaped? letter = some c)
    ?_ ?_ ?_ .nothing
  · rintro _ ⟨letter, c, rfl, known⟩
    rw [OnLine, List.forall_mem_singleton]
    constructor
    · rintro rfl
      cases known
    · rintro rfl
      cases known
  · rintro _ ⟨letter, c, rfl, known⟩
    simp only [List.singleton_append, letter?, known, Option.map_some]
    exact .result c
  · intro text free
    refine and_self_iff.mpr ?_
    cases text with
    | nil => rfl
    | cons letter rest =>
        cases known : unescaped? letter with
        | none => rw [letter?, known, Option.map_none]
        | some c => exact absurd ⟨rest, rfl⟩ (free [letter] ⟨letter, c, rfl, known⟩)

theorem inLine_escape? : InLine escape? := by
  have code : ∀ count, InLine fun text => (do
      let (code, rest) ← Numeral.take? 16 count text
      let c ← Text.scalar? code
      some (c, rest)) := by
    intro count
    exact .bind (inLine_take? 16 count) fun code => .given _ fun c => .result c
  refine .ofWords [['u'], ['U']] (by decide) ?_ ?_ inLine_letter?
  · exact List.forall_mem_cons.mpr ⟨code 4, List.forall_mem_singleton.mpr (code 8)⟩
  · intro text free
    unfold escape?
    split
    · simp_all
    · simp_all
    · rfl
    · rfl

theorem take?_append (base : Nat) (c : Char) (front rest : List Char) :
    Numeral.take? base (c :: front).length (c :: front ++ rest) =
      (Numeral.read? base (c :: front)).map fun code => (code, rest) := by
  rw [Numeral.take?, List.take_left, List.drop_left, if_neg (Nat.lt_irrefl _), Numeral.read?]
  cases (c :: front).mapM (Numeral.digit? base) <;> rfl

theorem take?_of_short {count : Nat} {text : List Char} (base : Nat)
    (short : text.length < count) : Numeral.take? base count text = none := by
  rw [Numeral.take?]
  refine if_pos ?_
  rw [List.length_take]
  omega

/-- Too few characters are left behind the letter that announces a code. -/
theorem escape?_of_short {rest : List Char} :
    (rest.length < 4 → escape? ('u' :: rest) = none) ∧
      (rest.length < 8 → escape? ('U' :: rest) = none) := by
  constructor
  · intro few
    rw [escape?, take?_of_short 16 few]
    rfl
  · intro few
    rw [escape?, take?_of_short 16 few]
    rfl

section Escapes

variable (more : Reader (List Char))

/-- A code is read, then looked up, and then the string is read on. -/
theorem keep_unicode? (digits rest : List Char) :
    keep (unicode? digits) (more rest) =
      ((((Numeral.read? 16 digits).map fun code => (code, rest)).bind fun (code, rest) =>
        (Text.scalar? code).bind fun c => some (c, rest)).bind
          fun (c, rest) => keep (some c) (more rest)) := by
  rw [unicode?]
  cases Numeral.read? 16 digits with
  | none => rfl
  | some code =>
      simp only [Option.bind_some, Option.map_some]
      cases Text.scalar? code <;> rfl

/-- A string reads an escape, puts what it stands for in front, and reads on. -/
theorem escape?_bind (text : List Char) :
    (match text with
      | 'u' :: a :: b :: c :: d :: rest => keep (unicode? [a, b, c, d]) (more rest)
      | 'U' :: a :: b :: c :: d :: e :: f :: g :: h :: rest =>
        keep (unicode? [a, b, c, d, e, f, g, h]) (more rest)
      | letter :: rest => keep (unescaped? letter) (more rest)
      | [] => none) =
      (escape? text).bind fun (c, rest) => keep (some c) (more rest) := by
  split
  · rename_i a b c d rest
    rw [keep_unicode?, ← take?_append]
    rfl
  · rename_i a b c d e f g h rest
    rw [keep_unicode?, ← take?_append]
    rfl
  · rename_i letter rest short long
    -- a `u` or `U` is left only in front of too few characters
    by_cases isShort : letter = 'u'
    · subst isShort
      have few : rest.length < 4 := by
        rcases rest with _ | ⟨a, _ | ⟨b, _ | ⟨c, _ | ⟨d, rest⟩⟩⟩⟩
        case cons.cons.cons.cons => exact absurd rfl (short a b c d rest rfl)
        all_goals simp
      rw [escape?_of_short.1 few]
      rfl
    by_cases isLong : letter = 'U'
    · subst isLong
      have few : rest.length < 8 := by
        rcases rest with
          _ | ⟨a, _ | ⟨b, _ | ⟨c, _ | ⟨d, _ | ⟨e, _ | ⟨f, _ | ⟨g, _ | ⟨h, rest⟩⟩⟩⟩⟩⟩⟩⟩
        case cons.cons.cons.cons.cons.cons.cons.cons =>
          exact absurd rfl (long a b c d e f g h rest rfl)
        all_goals simp
      rw [escape?_of_short.2 few]
      rfl
    rw [escape?]
    · cases unescaped? letter <;> rfl
    · exact isShort
    · exact isLong
  · rfl

end Escapes

/-! ## Quotes -/

section Quotes

variable {quote : Char} {text : List Char}

theorem onLine_twice (onLine : OnLine [quote]) : OnLine [quote, quote] := by
  simpa [OnLine] using onLine

theorem twoMore_iff (quote : Char) (text : List Char) :
    twoMore quote text = true ↔ [quote, quote] <+: text := by
  rw [twoMore, beq_iff_eq, List.prefix_iff_eq_take, eq_comm]
  rfl

theorem twoMore_unify (onLine : OnLine [quote]) (text : List Char) :
    twoMore quote (unifyLineEnds text) = twoMore quote text := by
  rw [Bool.eq_iff_iff, twoMore_iff, twoMore_iff, prefix_unify_iff (onLine_twice onLine)]

theorem length_closeQuotes_le (quote : Char) (text : List Char) :
    (closeQuotes quote text).2.length ≤ text.length := by
  rw [closeQuotes, List.length_drop]
  omega

/-- What closing quotes read unless two more follow them. -/
def oneMore (quote : Char) : Reader (List Char) := fun text =>
  some (if text.head? = some quote then ([quote], text.tail) else ([], text))

theorem inLine_oneMore (onLine : OnLine [quote]) : InLine (oneMore quote) := by
  refine .ofWord [quote] onLine ?_ ?_ (.result [])
  · simp only [oneMore, List.singleton_append, List.head?_cons, if_true, List.tail_cons]
    exact .result _
  · intro text free
    rw [oneMore, if_neg]
    intro first
    obtain ⟨rest, rfl⟩ := List.head?_eq_some_iff.mp first
    exact free ⟨rest, rfl⟩

theorem inLine_closeQuotes (onLine : OnLine [quote]) :
    InLine fun text => some (closeQuotes quote text) := by
  refine .ofWord [quote, quote] (onLine_twice onLine) ?_ ?_ (inLine_oneMore onLine)
  · have two : ∀ rest, closeQuotes quote ([quote, quote] ++ rest) = ([quote, quote], rest) := by
      intro rest
      simp [closeQuotes]
    simp only [two]
    exact .result _
  · intro text free
    rcases text with _ | ⟨c, _ | ⟨d, rest⟩⟩
    · rfl
    · by_cases here : c = quote <;> simp [closeQuotes, oneMore, here]
    · by_cases here : c = quote
      · by_cases there : d = quote
        · exact absurd ⟨rest, by rw [here, there]; rfl⟩ free
        · simp [closeQuotes, oneMore, here, there]
      · simp [closeQuotes, oneMore, here]

theorem closing_unify (onLine : OnLine [quote]) (two : twoMore quote text = true) :
    some (closeQuotes quote ((unifyLineEnds text).drop 2)) =
      (some (closeQuotes quote (text.drop 2))).map unifyRest := by
  obtain ⟨tail, rfl⟩ := (twoMore_iff quote text).mp two
  rw [unifyLineEnds_append (onLine_twice onLine)]
  exact (inLine_closeQuotes onLine).unify tail

theorem keep_unify (c : Option Char) (read : Option (List Char × List Char)) :
    keep c (read.map unifyRest) = (keep c read).map unifyRest := by
  cases c <;> cases read <;> rfl

/-- What is kept goes in front of what is read, not of the rest. -/
theorem keep_eq_some {c : Option Char} {read : Option (List Char × List Char)}
    {text rest : List Char} (kept : keep c read = some (text, rest)) :
    ∃ tail, read = some (tail, rest) := by
  cases c with
  | none => cases kept
  | some c =>
      cases read with
      | none => cases kept
      | some reading =>
          cases kept
          exact ⟨_, rfl⟩

end Quotes

/-! ## Basic strings -/

namespace AsWritten

/-- Reads a basic string on several lines. -/
def basicRest : (trimming : Bool) → Reader (List Char)
  | _, [] => none
  | trimming, '\r' :: '\n' :: rest =>
    if trimming then basicRest true rest else keep (some '\n') (basicRest false rest)
  | trimming, first :: rest =>
    if trimming && (isBlank first || first = '\n') then basicRest true rest
    else if first = '"' then
      if twoMore '"' rest then some (closeQuotes '"' (rest.drop 2))
      else keep (some '"') (basicRest false rest)
    else if first = '\\' then
      if endsLine rest then basicRest true rest
      else
        match rest with
        | 'u' :: a :: b :: c :: d :: rest =>
          keep (unicode? [a, b, c, d]) (basicRest false rest)
        | 'U' :: a :: b :: c :: d :: e :: f :: g :: h :: rest =>
          keep (unicode? [a, b, c, d, e, f, g, h]) (basicRest false rest)
        | letter :: rest => keep (unescaped? letter) (basicRest false rest)
        | [] => none
    else if isBasic first || first = '\n' then keep (some first) (basicRest false rest)
    else none

end AsWritten

/-- What is read of a basic string from a first character on that starts no line end of
two characters; `ends` tells whether a line ends behind a backslash, and `more` reads
on. -/
def basicStep (multiline : Bool) (ends : List Char → Bool) (more : Bool → Reader (List Char))
    (trimming : Bool) (first : Char) (rest : List Char) : Option (List Char × List Char) :=
  if trimming && (isBlank first || first = '\n') then more true rest
  else if first = '"' then
    if ¬ multiline then some ([], rest)
    else if twoMore '"' rest then some (closeQuotes '"' (rest.drop 2))
    else keep (some '"') (more false rest)
  else if first = '\\' then
    if multiline && ends rest then more true rest
    else (escape? rest).bind fun (c, rest) => keep (some c) (more false rest)
  else if isBasic first || (multiline && first = '\n') then keep (some first) (more false rest)
  else none

theorem basicRest_cons (multiline trimming : Bool) (first : Char) (rest : List Char) :
    basicRest multiline trimming (first :: rest) =
      basicStep multiline endsLine (basicRest multiline) trimming first rest := by
  rw [basicStep, ← escape?_bind]
  exact basicRest.eq_def multiline trimming (first :: rest)

theorem AsWritten.basicRest_cons (trimming : Bool) {first : Char} {rest : List Char}
    (kept : unifyLineEnds (first :: rest) = first :: unifyLineEnds rest) :
    AsWritten.basicRest trimming (first :: rest) =
      basicStep true AsWritten.endsLine AsWritten.basicRest trimming first rest := by
  rw [AsWritten.basicRest.eq_def, basicStep, ← escape?_bind]
  split
  · contradiction
  · rename_i equality
    cases equality
    rw [unifyLineEnds_pair] at kept
    cases kept
  · rename_i equality
    cases equality
    rfl

section BasicStep

variable {more : Bool → Reader (List Char)} {ends : List Char → Bool} {rest : List Char}
  {multiline trimming : Bool} {first : Char}

/-- One step is the same for both spellings of line ends if the following ones are.  A
string on one line is never trimmed. -/
theorem basicStep_unify {writtenMore : Bool → Reader (List Char)} (first : Char)
    (trims : trimming = true → multiline = true)
    (sameEnds : (multiline && endsLine (unifyLineEnds rest)) = (multiline && ends rest))
    (alike : ∀ trimming text, (trimming = true → multiline = true) →
      text.length ≤ rest.length →
        more trimming (unifyLineEnds text) = (writtenMore trimming text).map unifyRest) :
    basicStep multiline endsLine more trimming first (unifyLineEnds rest) =
      (basicStep multiline ends writtenMore trimming first rest).map unifyRest := by
  have trimmed : multiline = true →
      more true (unifyLineEnds rest) = (writtenMore true rest).map unifyRest :=
    fun several => alike true rest (fun _ => several) (Nat.le_refl _)
  have kept : ∀ c, keep c (more false (unifyLineEnds rest)) =
      (keep c (writtenMore false rest)).map unifyRest := by
    intro c
    rw [alike false rest (by simp) (Nat.le_refl _), keep_unify]
  rw [basicStep, basicStep, twoMore_unify (by decide), sameEnds, kept, kept]
  split
  · rename_i skipped
    exact trimmed (trims (Bool.and_eq_true_iff.mp skipped).1)
  split
  · split
    · rfl
    split
    · rename_i two
      exact closing_unify (by decide) two
    · rfl
  split
  · split
    · rename_i ended
      exact trimmed (Bool.and_eq_true_iff.mp ended).1
    · rw [inLine_escape?.unify]
      cases reads : escape? rest with
      | none => rfl
      | some reading =>
          simp only [Option.map_some, Option.bind_some, unifyRest]
          rw [alike _ _ (by simp) (inLine_escape?.onward reads), keep_unify]
  split
  · rfl
  · rfl

theorem basicStep_onward {behind text : List Char}
    (onward : ∀ {trimming text read rest}, text.length ≤ behind.length →
      more trimming text = some (read, rest) → rest.length ≤ text.length)
    (reads : basicStep multiline ends more trimming first behind = some (text, rest)) :
    rest.length ≤ behind.length := by
  have kept : ∀ {c trimming}, keep c (more trimming behind) = some (text, rest) →
      rest.length ≤ behind.length := by
    intro c trimming reads
    obtain ⟨tail, inner⟩ := keep_eq_some reads
    exact onward (Nat.le_refl _) inner
  unfold basicStep at reads
  split at reads
  · exact onward (Nat.le_refl _) reads
  split at reads
  · split at reads
    · cases reads
      exact Nat.le_refl _
    split at reads
    · have shorter := length_closeQuotes_le '"' (behind.drop 2)
      rw [Option.some.inj reads, List.length_drop] at shorter
      exact Nat.le_trans shorter (Nat.sub_le _ _)
    · exact kept reads
  split at reads
  · split at reads
    · exact onward (Nat.le_refl _) reads
    · obtain ⟨⟨c, after⟩, escape, inner⟩ := Option.bind_eq_some_iff.mp reads
      obtain ⟨tail, inner⟩ := keep_eq_some inner
      have shorter := inLine_escape?.onward escape
      exact Nat.le_trans (onward shorter inner) shorter
  split at reads
  · exact kept reads
  · cases reads

end BasicStep

/-- An escape is read several characters at a time, so that the induction is on the length
of the text. -/
theorem basicRest_unify (count : Nat) (trimming : Bool) (text : List Char)
    (short : text.length ≤ count) :
    basicRest true trimming (unifyLineEnds text) =
      (AsWritten.basicRest trimming text).map unifyRest := by
  induction count generalizing trimming text with
  | zero =>
      obtain rfl := List.length_eq_zero_iff.mp (Nat.le_zero.mp short)
      cases trimming <;> rfl
  | succ count induction =>
      cases spelling text with
      | nil => cases trimming <;> rfl
      | pair rest =>
          have shorter : rest.length ≤ count := by
            simp only [List.length_cons] at short
            omega
          rw [unifyLineEnds_pair, basicRest_cons, basicStep, AsWritten.basicRest]
          cases trimming with
          | true => exact induction true rest shorter
          | false =>
              have more := keep_unify (some '\n') (AsWritten.basicRest false rest)
              rwa [← induction false rest shorter] at more
      | single c rest kept =>
          rw [kept, basicRest_cons, AsWritten.basicRest_cons _ kept]
          exact basicStep_unify c (fun _ => rfl) (endsLine_unify rest)
            fun trimming text _ shorter => induction trimming text
              (Nat.le_trans shorter (Nat.le_of_succ_le_succ short))

theorem basicRest_unify_of_line (count : Nat) (text : List Char) (short : text.length ≤ count) :
    basicRest false false (unifyLineEnds text) = (basicRest false false text).map unifyRest := by
  induction count generalizing text with
  | zero =>
      obtain rfl := List.length_eq_zero_iff.mp (Nat.le_zero.mp short)
      rfl
  | succ count induction =>
      cases spelling text with
      | nil => rfl
      | pair rest =>
          rw [unifyLineEnds_pair, basicRest_cons, basicRest_cons]
          rfl
      | single c rest kept =>
          rw [kept, basicRest_cons, basicRest_cons]
          refine basicStep_unify c (fun trims => trims) rfl fun trimming text trims shorter => ?_
          cases trimming with
          | true => exact absurd (trims rfl) (by decide)
          | false => exact induction text (Nat.le_trans shorter (Nat.le_of_succ_le_succ short))

theorem basicRest_onward (multiline : Bool) (count : Nat) {trimming : Bool}
    {text read rest : List Char} (short : text.length ≤ count)
    (reads : basicRest multiline trimming text = some (read, rest)) :
    rest.length ≤ text.length := by
  induction count generalizing trimming text read rest with
  | zero =>
      obtain rfl := List.length_eq_zero_iff.mp (Nat.le_zero.mp short)
      cases trimming <;> cases reads
  | succ count induction =>
      cases text with
      | nil => cases trimming <;> cases reads
      | cons first behind =>
          rw [basicRest_cons] at reads
          exact Nat.le_succ_of_le (basicStep_onward (fun shorter inner => induction
            (Nat.le_trans shorter (Nat.le_of_succ_le_succ short)) inner) reads)

theorem alike_basicRest (trimming : Bool) :
    ReadsAlike (AsWritten.basicRest trimming) (basicRest true trimming) where
  unify := fun text => basicRest_unify text.length trimming text (Nat.le_refl _)
  onward := fun reads => basicRest_onward true _ (Nat.le_refl _) reads

theorem inLine_basicRest : InLine (basicRest false false) where
  unify := fun text => basicRest_unify_of_line text.length text (Nat.le_refl _)
  onward := fun reads => basicRest_onward false _ (Nat.le_refl _) reads

/-! ## Literal strings -/

namespace AsWritten

/-- Reads a literal string on several lines. -/
def literalRest : Reader (List Char)
  | [] => none
  | '\r' :: '\n' :: rest => keep (some '\n') (literalRest rest)
  | first :: rest =>
    if first = '\'' then
      if twoMore '\'' rest then some (closeQuotes '\'' (rest.drop 2))
      else keep (some '\'') (literalRest rest)
    else if isLiteral first || first = '\n' then keep (some first) (literalRest rest)
    else none

end AsWritten

/-- What is read of a literal string from a first character on that starts no line end of
two characters; `more` reads on. -/
def literalStep (multiline : Bool) (more : Reader (List Char)) (first : Char)
    (rest : List Char) : Option (List Char × List Char) :=
  if first = '\'' then
    if ¬ multiline then some ([], rest)
    else if twoMore '\'' rest then some (closeQuotes '\'' (rest.drop 2))
    else keep (some '\'') (more rest)
  else if isLiteral first || (multiline && first = '\n') then keep (some first) (more rest)
  else none

theorem literalRest_cons (multiline : Bool) (first : Char) (rest : List Char) :
    literalRest multiline (first :: rest) =
      literalStep multiline (literalRest multiline) first rest := by
  rw [literalRest, literalStep]

theorem AsWritten.literalRest_cons {first : Char} {rest : List Char}
    (kept : unifyLineEnds (first :: rest) = first :: unifyLineEnds rest) :
    AsWritten.literalRest (first :: rest) =
      literalStep true AsWritten.literalRest first rest := by
  rw [AsWritten.literalRest.eq_def, literalStep]
  split
  · contradiction
  · rename_i equality
    cases equality
    rw [unifyLineEnds_pair] at kept
    cases kept
  · rename_i equality
    cases equality
    rfl

theorem literalStep_unify {more writtenMore : Reader (List Char)} {rest : List Char}
    (multiline : Bool) (first : Char)
    (alike : more (unifyLineEnds rest) = (writtenMore rest).map unifyRest) :
    literalStep multiline more first (unifyLineEnds rest) =
      (literalStep multiline writtenMore first rest).map unifyRest := by
  rw [literalStep, literalStep, twoMore_unify (by decide), alike, keep_unify, keep_unify]
  split
  · split
    · rfl
    split
    · rename_i two
      exact closing_unify (by decide) two
    · rfl
  split
  · rfl
  · rfl

theorem literalRest_onward {multiline : Bool} {text read rest : List Char}
    (reads : literalRest multiline text = some (read, rest)) : rest.length ≤ text.length := by
  fun_induction literalRest multiline text generalizing read with
  | case1 => cases reads
  | case2 behind single =>
      cases reads
      exact Nat.le_succ _
  | case3 behind several two =>
      have shorter := length_closeQuotes_le '\'' (behind.drop 2)
      rw [Option.some.inj reads, List.length_drop] at shorter
      exact Nat.le_succ_of_le (Nat.le_trans shorter (Nat.sub_le _ _))
  | case4 behind several two induction =>
      obtain ⟨tail, inner⟩ := keep_eq_some reads
      exact Nat.le_succ_of_le (induction inner)
  | case5 first behind other literal induction =>
      obtain ⟨tail, inner⟩ := keep_eq_some reads
      exact Nat.le_succ_of_le (induction inner)
  | case6 first behind other refused => cases reads

theorem literalRest_unify (count : Nat) (text : List Char) (short : text.length ≤ count) :
    literalRest true (unifyLineEnds text) = (AsWritten.literalRest text).map unifyRest := by
  induction count generalizing text with
  | zero =>
      obtain rfl := List.length_eq_zero_iff.mp (Nat.le_zero.mp short)
      rfl
  | succ count induction =>
      cases spelling text with
      | nil => rfl
      | pair rest =>
          have shorter : rest.length ≤ count := by
            simp only [List.length_cons] at short
            omega
          have more := keep_unify (some '\n') (AsWritten.literalRest rest)
          rw [← induction rest shorter] at more
          rw [unifyLineEnds_pair, literalRest_cons, AsWritten.literalRest]
          exact more
      | single c rest kept =>
          rw [kept, literalRest_cons, AsWritten.literalRest_cons kept]
          exact literalStep_unify true c (induction rest (Nat.le_of_succ_le_succ short))

theorem alike_literalRest : ReadsAlike AsWritten.literalRest (literalRest true) where
  unify := fun text => literalRest_unify text.length text (Nat.le_refl _)
  onward := literalRest_onward

theorem inLine_literalRest : InLine (literalRest false) where
  unify := by
    intro text
    induction text with
    | nil => rfl
    | cons c rest induction =>
        cases spelling (c :: rest) with
        | pair rest =>
            rw [unifyLineEnds_pair, literalRest_cons, literalRest_cons]
            rfl
        | single _ _ kept =>
            rw [kept, literalRest_cons, literalRest_cons]
            exact literalStep_unify false c induction
  onward := literalRest_onward

/-! ## Strings -/

namespace AsWritten

def string? : Reader (List Char)
  | '"' :: '"' :: '"' :: rest => basicRest false (dropNewline rest)
  | '"' :: rest => Toml.basicRest false false rest
  | '\'' :: '\'' :: '\'' :: rest => literalRest (dropNewline rest)
  | '\'' :: rest => Toml.literalRest false rest
  | _ => none

end AsWritten

/-- Reads a string on one line. -/
def lineString? : Reader (List Char)
  | '"' :: rest => basicRest false false rest
  | '\'' :: rest => literalRest false rest
  | _ => none

theorem inLine_lineString? : InLine lineString? := by
  refine .ofWords [['"'], ['\'']] (by decide) ?_ ?_ .nothing
  · exact List.forall_mem_cons.mpr
      ⟨inLine_basicRest, List.forall_mem_singleton.mpr inLine_literalRest⟩
  · intro text free
    unfold lineString?
    split <;> simp_all

theorem alike_string? : ReadsAlike AsWritten.string? string? := by
  have basic : ReadsAlike (fun rest => AsWritten.basicRest false (AsWritten.dropNewline rest))
      fun rest => basicRest true false (dropLineFeed rest) :=
    .after alike_dropNewline (alike_basicRest false)
  have literal : ReadsAlike (fun rest => AsWritten.literalRest (AsWritten.dropNewline rest))
      fun rest => literalRest true (dropLineFeed rest) :=
    .after alike_dropNewline alike_literalRest
  refine .ofWords [['"', '"', '"'], ['\'', '\'', '\'']] (by decide) ?_ ?_ inLine_lineString?
  · exact List.forall_mem_cons.mpr ⟨basic, List.forall_mem_singleton.mpr literal⟩
  · intro text free
    constructor
    · unfold AsWritten.string? lineString?
      split <;> simp_all
    · unfold string? lineString?
      split <;> simp_all

/-! ## Keys -/

def bareKey? : Reader String := fun text =>
  if (text.takeWhile isBareKey).isEmpty then none
  else some (.ofList (text.takeWhile isBareKey), text.dropWhile isBareKey)

theorem inLine_bareKey? : InLine bareKey? where
  unify := by
    intro text
    rw [bareKey?, takeWhile_unify isBareKey rfl rfl, dropWhile_unify isBareKey rfl rfl, bareKey?]
    split <;> rfl
  onward := by
    intro text name rest reads
    rw [bareKey?] at reads
    split at reads
    · cases reads
    · cases reads
      exact (List.dropWhile_sublist _).length_le

theorem inLine_keyPart? : InLine keyPart? := by
  refine .ofWords [['"'], ['\'']] (by decide) ?_ ?_ inLine_bareKey?
  · exact List.forall_mem_cons.mpr
      ⟨inLine_basicRest.map, List.forall_mem_singleton.mpr inLine_literalRest.map⟩
  · intro text free
    unfold keyPart? bareKey?
    split <;> simp_all

/-- Reads the parts of a key behind one of them and blanks. -/
def moreParts (parts : Reader (List String)) (part : String) : Reader (List String)
  | '.' :: rest => do
    let (parts, rest) ← parts rest
    some (part :: parts, rest)
  | text => some ([part], text)

theorem inLine_moreParts {parts : Reader (List String)} (inLine : InLine parts) (part : String) :
    InLine (moreParts parts part) := by
  refine .ofWord ['.'] (by decide) ?_ ?_ (.result [part])
  · exact .bind inLine fun parts => .result (part :: parts)
  · intro text free
    unfold moreParts
    split <;> simp_all

theorem inLine_keyParts? (limit : Nat) : InLine (keyParts? limit) := by
  induction limit with
  | zero => exact .nothing
  | succ limit induction =>
      exact .bind inLine_keyPart?.afterBlanks fun part =>
        (inLine_moreParts induction part).afterBlanks

theorem inLine_key? : InLine key? :=
  inLine_keyParts? nestingLimit

end UserRegistry.Toml
