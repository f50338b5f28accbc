import Mathlib.Data.List.Basic
import UserRegistry.Toml.Text

/-!
# Two spellings of a line end

A line end is written as a line feed, with or without a carriage return in front of
it.  Unifying the line ends of a text touches nothing between them, so that a reader
may as well read the text as it is written, provided that it takes both spellings
wherever it takes a line feed.  `ReadsAlike` says this of a pair of readers, one for
the written text and one for the unified text, and is closed under the ways in which
the readers are put together.  A reader that stops at every line end is its own
partner.
-/

namespace UserRegistry.Toml

/-! ## Unified line ends -/

section Unified

variable {front rest text : List Char}

theorem unifyLineEnds_pair (rest : List Char) :
    unifyLineEnds ('\r' :: '\n' :: rest) = '\n' :: unifyLineEnds rest := by
  rw [unifyLineEnds]

theorem unifyLineEnds_of_single {c : Char}
    (single : ∀ behind, c = '\r' → rest = '\n' :: behind → False) :
    unifyLineEnds (c :: rest) = c :: unifyLineEnds rest := by
  rw [unifyLineEnds]
  exact single

theorem unifyLineEnds_cons {c : Char} (noReturn : c ≠ '\r') (rest : List Char) :
    unifyLineEnds (c :: rest) = c :: unifyLineEnds rest :=
  unifyLineEnds_of_single fun _ isReturn _ => noReturn isReturn

/-- How a text starts: with a line end of two characters, or with a character that is
kept. -/
inductive Spelling : List Char → Prop where
  | nil : Spelling []
  | pair (rest : List Char) : Spelling ('\r' :: '\n' :: rest)
  | single (c : Char) (rest : List Char)
      (kept : unifyLineEnds (c :: rest) = c :: unifyLineEnds rest) : Spelling (c :: rest)

theorem spelling (text : List Char) : Spelling text := by
  fun_cases unifyLineEnds text with
  | case1 rest => exact .pair rest
  | case2 c rest single => exact .single c rest (unifyLineEnds_of_single single)
  | case3 => exact .nil

theorem length_unifyLineEnds_le (text : List Char) :
    (unifyLineEnds text).length ≤ text.length := by
  fun_induction unifyLineEnds text with
  | case1 rest induction =>
      simp only [List.length_cons]
      omega
  | case2 c rest _ induction => exact Nat.succ_le_succ induction
  | case3 => exact Nat.le_refl 0

theorem isEmpty_unify (text : List Char) : (unifyLineEnds text).isEmpty = text.isEmpty := by
  cases spelling text with
  | nil => rfl
  | pair rest =>
      rw [unifyLineEnds_pair]
      rfl
  | single c rest kept =>
      rw [kept]
      rfl

/-- A text of characters that end no line. -/
def OnLine (front : List Char) : Prop :=
  ∀ c ∈ front, c ≠ '\n' ∧ c ≠ '\r'

instance (front : List Char) : Decidable (OnLine front) :=
  List.decidableBAll (fun c => c ≠ '\n' ∧ c ≠ '\r') front

theorem unifyLineEnds_append (onLine : OnLine front) (rest : List Char) :
    unifyLineEnds (front ++ rest) = front ++ unifyLineEnds rest := by
  induction front with
  | nil => rfl
  | cons c front induction =>
      rw [List.cons_append, unifyLineEnds_cons (onLine c List.mem_cons_self).2,
        induction fun d inside => onLine d (List.mem_cons_of_mem c inside), List.cons_append]

/-- Unifying line ends brings no front about that stands on one line. -/
theorem prefix_of_unify (onLine : OnLine front) (found : front <+: unifyLineEnds text) :
    front <+: text := by
  induction front generalizing text with
  | nil => exact List.nil_prefix
  | cons c front induction =>
      cases spelling text with
      | nil => exact found
      | pair rest =>
          rw [unifyLineEnds_pair] at found
          exact absurd (List.cons_prefix_cons.mp found).1 (onLine c List.mem_cons_self).1
      | single d rest kept =>
          rw [kept] at found
          obtain ⟨same, more⟩ := List.cons_prefix_cons.mp found
          exact List.cons_prefix_cons.mpr ⟨same,
            induction (fun d inside => onLine d (List.mem_cons_of_mem c inside)) more⟩

theorem prefix_unify_iff (onLine : OnLine front) :
    front <+: unifyLineEnds text ↔ front <+: text := by
  constructor
  · exact prefix_of_unify onLine
  · rintro ⟨rest, rfl⟩
    exact ⟨unifyLineEnds rest, (unifyLineEnds_append onLine rest).symm⟩

theorem exists_head_unify {Known : Char → Prop} (noLineFeed : ¬ Known '\n')
    (noReturn : ¬ Known '\r') (text : List Char) :
    (∃ c ∈ (unifyLineEnds text).head?, Known c) ↔ ∃ c ∈ text.head?, Known c := by
  cases spelling text with
  | nil => exact Iff.rfl
  | pair rest => simp [unifyLineEnds_pair, noLineFeed, noReturn]
  | single c rest kept => simp [kept]

variable (accepts : Char → Bool)

theorem takeWhile_unify (lineFeed : accepts '\n' = false) (carriageReturn : accepts '\r' = false)
    (text : List Char) : (unifyLineEnds text).takeWhile accepts = text.takeWhile accepts := by
  fun_induction unifyLineEnds text with
  | case1 rest _ => simp [lineFeed, carriageReturn]
  | case2 c rest _ induction => rw [List.takeWhile_cons, List.takeWhile_cons, induction]
  | case3 => rfl

theorem dropWhile_unify (lineFeed : accepts '\n' = false) (carriageReturn : accepts '\r' = false)
    (text : List Char) :
    (unifyLineEnds text).dropWhile accepts = unifyLineEnds (text.dropWhile accepts) := by
  induction text with
  | nil => rfl
  | cons c rest induction =>
      by_cases accepted : accepts c = true
      · have noReturn : c ≠ '\r' := by
          rintro rfl
          rw [carriageReturn] at accepted
          contradiction
        rw [unifyLineEnds_cons noReturn, List.dropWhile_cons_of_pos accepted,
          List.dropWhile_cons_of_pos accepted, induction]
      · rw [List.dropWhile_cons_of_neg accepted]
        cases spelling (c :: rest) with
        | pair rest => rw [unifyLineEnds_pair, List.dropWhile_cons_of_neg (by simp [lineFeed])]
        | single _ _ kept => rw [kept, List.dropWhile_cons_of_neg accepted]

end Unified

/-! ## Readers -/

/-- Reads something off the front of a text and gives back the rest. -/
abbrev Reader (α : Type) :=
  List Char → Option (α × List Char)

variable {α β γ : Type}

namespace Reader

/-- Reads on with what is read. -/
def andThen (read : Reader α) (next : α → Reader β) : Reader β :=
  fun text => read text >>= fun found => next found.1 found.2

/-- Reads on with what is read or, if nothing is, tries another reader. -/
def elim (read : Reader α) (others : Reader β) (next : α → Reader β) : Reader β :=
  fun text => (read text).elim (others text) fun found => next found.1 found.2

end Reader

/-- What is read, with the line ends of the rest unified. -/
def unifyRest (reading : α × List Char) : α × List Char :=
  (reading.1, unifyLineEnds reading.2)

/-- `read` reads from a text with unified line ends what `written` reads from the text as
it is written, and never gives back more than it was given. -/
structure ReadsAlike (written read : Reader α) : Prop where
  unify : ∀ text, read (unifyLineEnds text) = (written text).map unifyRest
  onward : ∀ {text a rest}, read text = some (a, rest) → rest.length ≤ text.length

/-- A reader that stops at line ends of either spelling. -/
abbrev InLine (read : Reader α) : Prop :=
  ReadsAlike read read

/-- The same for what is skipped. -/
structure SkipsAlike (written skip : List Char → List Char) : Prop where
  unify : ∀ text, skip (unifyLineEnds text) = unifyLineEnds (written text)
  onward : ∀ text, (skip text).length ≤ text.length

namespace ReadsAlike

variable {written read written' read' : Reader α}

theorem nothing : InLine fun _ => (none : Option (α × List Char)) where
  unify := fun _ => rfl
  onward := by
    intro text a rest reads
    cases reads

theorem result (a : α) : InLine fun text => some (a, text) where
  unify := fun _ => rfl
  onward := by
    intro text a rest reads
    cases reads
    exact Nat.le_refl _

theorem after {writtenSkip skip : List Char → List Char} (skips : SkipsAlike writtenSkip skip)
    (alike : ReadsAlike written read) :
    ReadsAlike (fun text => written (writtenSkip text)) fun text => read (skip text) where
  unify := by
    intro text
    rw [skips.unify, alike.unify]
  onward := fun reads => Nat.le_trans (alike.onward reads) (skips.onward _)

theorem map {f : α → β} (alike : ReadsAlike written read) :
    ReadsAlike (fun text => (written text).map fun (a, rest) => (f a, rest))
      fun text => (read text).map fun (a, rest) => (f a, rest) where
  unify := by
    intro text
    rw [alike.unify]
    cases written text <;> rfl
  onward := by
    intro text b rest reads
    obtain ⟨⟨a, behind⟩, first, second⟩ := Option.map_eq_some_iff.mp reads
    cases second
    exact alike.onward first

theorem bind {writtenNext next : α × List Char → Option (β × List Char)}
    (alike : ReadsAlike written read)
    (behind : ∀ a, ReadsAlike (fun rest => writtenNext (a, rest)) fun rest => next (a, rest)) :
    ReadsAlike (fun text => written text >>= writtenNext) fun text => read text >>= next where
  unify := by
    intro text
    rw [alike.unify]
    cases written text with
    | none => rfl
    | some reading => exact (behind reading.1).unify reading.2
  onward := by
    intro text b rest reads
    obtain ⟨⟨a, after⟩, first, second⟩ := Option.bind_eq_some_iff.mp reads
    exact Nat.le_trans ((behind a).onward second) (alike.onward first)

theorem ite {condition : Prop} [Decidable condition] (yes : ReadsAlike written read)
    (no : ReadsAlike written' read') :
    ReadsAlike (fun text => if condition then written text else written' text)
      fun text => if condition then read text else read' text := by
  split <;> assumption

theorem given {writtenNext next : γ → Reader α} (found : Option γ)
    (behind : ∀ c, ReadsAlike (writtenNext c) (next c)) :
    ReadsAlike (fun text => found >>= fun c => writtenNext c text)
      fun text => found >>= fun c => next c text := by
  cases found with
  | none => exact .nothing
  | some c => exact behind c

/-- A reader that goes on behind certain fronts, and is another reader elsewhere. -/
theorem ofFronts (Known : List Char → Prop) (onLine : ∀ front, Known front → OnLine front)
    (behind : ∀ front, Known front →
      ReadsAlike (fun rest => written (front ++ rest)) fun rest => read (front ++ rest))
    (elsewhere : ∀ text, (∀ front, Known front → ¬ front <+: text) →
      written text = written' text ∧ read text = read' text)
    (others : ReadsAlike written' read') : ReadsAlike written read where
  unify := by
    intro text
    by_cases found : ∃ front, Known front ∧ front <+: text
    · obtain ⟨front, known, rest, rfl⟩ := found
      rw [unifyLineEnds_append (onLine front known)]
      exact (behind front known).unify rest
    · have free : ∀ front, Known front → ¬ front <+: text := by
        intro front known starts
        exact found ⟨front, known, starts⟩
      have stillFree : ∀ front, Known front → ¬ front <+: unifyLineEnds text := by
        intro front known starts
        exact free front known (prefix_of_unify (onLine front known) starts)
      rw [(elsewhere text free).1, (elsewhere _ stillFree).2, others.unify]
  onward := by
    intro text a rest reads
    by_cases found : ∃ front, Known front ∧ front <+: text
    · obtain ⟨front, known, tail, rfl⟩ := found
      have shorter := (behind front known).onward reads
      rw [List.length_append]
      omega
    · have free : ∀ front, Known front → ¬ front <+: text := by
        intro front known starts
        exact found ⟨front, known, starts⟩
      rw [(elsewhere text free).2] at reads
      exact others.onward reads

theorem ofWords (words : List (List Char)) (onLine : ∀ word ∈ words, OnLine word)
    (behind : ∀ word ∈ words,
      ReadsAlike (fun rest => written (word ++ rest)) fun rest => read (word ++ rest))
    (elsewhere : ∀ text, (∀ word ∈ words, ¬ word <+: text) →
      written text = written' text ∧ read text = read' text)
    (others : ReadsAlike written' read') : ReadsAlike written read :=
  .ofFronts (· ∈ words) onLine behind elsewhere others

theorem ofWord (word : List Char) (onLine : OnLine word)
    (behind : ReadsAlike (fun rest => written (word ++ rest)) fun rest => read (word ++ rest))
    (elsewhere : ∀ text, ¬ word <+: text → written text = written' text ∧ read text = read' text)
    (others : ReadsAlike written' read') : ReadsAlike written read :=
  .ofWords [word] (List.forall_mem_singleton.mpr onLine) (List.forall_mem_singleton.mpr behind)
    (fun text free => elsewhere text (free word (List.mem_singleton_self word))) others

/-- A reader that is one reader in front of certain characters, and another elsewhere. -/
theorem ofClass {inner writtenInner : Reader α} (Known : Char → Prop)
    (noLineFeed : ¬ Known '\n') (noReturn : ¬ Known '\r')
    (inside : ∀ text, (∃ c ∈ text.head?, Known c) →
      written text = writtenInner text ∧ read text = inner text)
    (outside : ∀ text, (¬ ∃ c ∈ text.head?, Known c) →
      written text = written' text ∧ read text = read' text)
    (alike : ReadsAlike writtenInner inner) (others : ReadsAlike written' read') :
    ReadsAlike written read where
  unify := by
    intro text
    have same := exists_head_unify noLineFeed noReturn text
    by_cases known : ∃ c ∈ text.head?, Known c
    · rw [(inside text known).1, (inside _ (same.mpr known)).2, alike.unify]
    · rw [(outside text known).1, (outside _ (same.not.mpr known)).2, others.unify]
  onward := by
    intro text a rest reads
    by_cases known : ∃ c ∈ text.head?, Known c
    · rw [(inside text known).2] at reads
      exact alike.onward reads
    · rw [(outside text known).2] at reads
      exact others.onward reads

end ReadsAlike

namespace InLine

variable {read read' : Reader α} {next : α → Reader β} {others : Reader β}

theorem andThen (first : InLine read) (behind : ∀ a, InLine (next a)) :
    InLine (read.andThen next) :=
  .bind first behind

theorem elim (first : InLine read) (behind : ∀ a, InLine (next a)) (otherwise : InLine others) :
    InLine (read.elim others next) where
  unify := by
    intro text
    rw [Reader.elim, Reader.elim, first.unify]
    cases read text with
    | none => exact otherwise.unify text
    | some reading => exact (behind reading.1).unify reading.2
  onward := by
    intro text b rest reads
    rw [Reader.elim] at reads
    cases found : read text with
    | none =>
        rw [found] at reads
        exact otherwise.onward reads
    | some reading =>
        rw [found] at reads
        exact Nat.le_trans ((behind reading.1).onward reads) (first.onward found)

theorem ofWords (words : List (List Char)) (onLine : ∀ word ∈ words, OnLine word)
    (behind : ∀ word ∈ words, InLine fun rest => read (word ++ rest))
    (elsewhere : ∀ text, (∀ word ∈ words, ¬ word <+: text) → read text = read' text)
    (others : InLine read') : InLine read :=
  ReadsAlike.ofWords words onLine behind
    (fun text free => ⟨elsewhere text free, elsewhere text free⟩) others

theorem ofWord (word : List Char) (onLine : OnLine word)
    (behind : InLine fun rest => read (word ++ rest))
    (elsewhere : ∀ text, ¬ word <+: text → read text = read' text)
    (others : InLine read') : InLine read :=
  ReadsAlike.ofWord word onLine behind
    (fun text free => ⟨elsewhere text free, elsewhere text free⟩) others

end InLine

end UserRegistry.Toml
