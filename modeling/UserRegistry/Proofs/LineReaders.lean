import UserRegistry.Proofs.LineEnds
import UserRegistry.Toml.Value

/-!
# Readers that stop at line ends

Numbers, date-times and words stand on one line.  Each of their readers is put together
from readers of digits and of fixed words, none of which is or goes past a line end.
-/

namespace UserRegistry.Toml

/-! ## Rows of digits -/

theorem onLine_of_digit? {base digit : Nat} {c : Char}
    (reads : Numeral.digit? base c = some digit) : OnLine [c] := by
  rw [OnLine, List.forall_mem_singleton]
  constructor
  · rintro rfl
    cases reads
  · rintro rfl
    cases reads

def digitOf? (base : Nat) : Reader Nat
  | [] => none
  | c :: rest => (Numeral.digit? base c).map fun digit => (digit, rest)

theorem inLine_digitOf? (base : Nat) : InLine (digitOf? base) := by
  refine .ofFronts (fun front => ∃ c digit, front = [c] ∧ Numeral.digit? base c = some digit)
    ?_ ?_ ?_ .nothing
  · rintro _ ⟨c, digit, rfl, reads⟩
    exact onLine_of_digit? reads
  · rintro _ ⟨c, digit, rfl, reads⟩
    simp only [List.singleton_append, digitOf?, reads, Option.map_some]
    exact .result digit
  · intro text free
    refine and_self_iff.mpr ?_
    cases text with
    | nil => rfl
    | cons c rest =>
        cases reads : Numeral.digit? base c with
        | none => rw [digitOf?, reads, Option.map_none]
        | some digit => exact absurd ⟨rest, rfl⟩ (free [c] ⟨c, digit, rfl, reads⟩)

/-- Reads `count` digits one by one. -/
def digitsOf? (base : Nat) : Nat → Reader (List Nat)
  | 0, text => some ([], text)
  | count + 1, text => do
    let (digit, rest) ← digitOf? base text
    let (digits, rest) ← digitsOf? base count rest
    some (digit :: digits, rest)

theorem inLine_digitsOf? (base count : Nat) : InLine (digitsOf? base count) := by
  induction count with
  | zero => exact .result []
  | succ count induction =>
      exact .bind (inLine_digitOf? base) fun digit => .bind induction fun digits =>
        .result (digit :: digits)

theorem digitsOf?_eq (base count : Nat) (text : List Char) :
    digitsOf? base count text =
      if text.length < count then none
      else ((text.take count).mapM (Numeral.digit? base)).map fun digits =>
        (digits, text.drop count) := by
  induction count generalizing text with
  | zero => rfl
  | succ count induction =>
      cases text with
      | nil => rfl
      | cons c text =>
          rw [digitsOf?, digitOf?]
          simp only [List.length_cons, Nat.add_lt_add_iff_right, List.take_succ_cons,
            List.drop_succ_cons, List.mapM_cons]
          cases Numeral.digit? base c with
          | none => simp
          | some digit =>
              simp only [Option.map_some, Option.bind_eq_bind, Option.bind_some, induction]
              split
              · rfl
              · cases (text.take count).mapM (Numeral.digit? base) <;> rfl

/-- A fixed number of digits may be read one by one. -/
theorem take?_eq (base count : Nat) (text : List Char) :
    Numeral.take? base count text =
      (digitsOf? base count text).map fun (digits, rest) =>
        (Numeral.ofDigits base digits, rest) := by
  have short : (text.take count).length < count ↔ text.length < count := by
    rw [List.length_take]
    omega
  simp only [Numeral.take?, digitsOf?_eq, short]
  split
  · rfl
  · cases (text.take count).mapM (Numeral.digit? base) <;> rfl

theorem inLine_take? (base count : Nat) : InLine (Numeral.take? base count) := by
  rw [funext (take?_eq base count)]
  exact (inLine_digitsOf? base count).map

theorem inLine_moreDigits (base : Nat) : InLine fun text => some (moreDigits base text) where
  unify := by
    intro text
    have lineFeed : Numeral.digit? base '\n' = none := rfl
    have noReturn : ∀ {c digit}, Numeral.digit? base c = some digit → c ≠ '\r' := by
      rintro _ digit reads rfl
      cases reads
    have separator := unifyLineEnds_cons (c := '_') (by decide)
    -- a character that is no digit may start a line end, which starts with no digit either
    fun_induction moreDigits base text with
    | case1 => rfl
    | case2 => rfl
    | case3 c more digit reads digits rest equality induction =>
        rw [separator, unifyLineEnds_cons (noReturn reads)]
        simp_all [moreDigits, unifyRest]
    | case4 c more refused =>
        cases spelling (c :: more) with
        | pair rest => simp [separator, unifyLineEnds_pair, moreDigits, lineFeed, unifyRest]
        | single _ _ kept => simp [separator, kept, moreDigits, refused, unifyRest]
    | case5 c rest other digit reads digits behind equality induction =>
        rw [unifyLineEnds_cons (noReturn reads)]
        simp_all [moreDigits, unifyRest]
    | case6 c rest other refused =>
        cases spelling (c :: rest) with
        | pair rest => simp [unifyLineEnds_pair, moreDigits, lineFeed, unifyRest]
        | single _ _ kept => simp [kept, moreDigits, refused, unifyRest]
  onward := by
    intro text digits rest reads
    have behind : rest = (moreDigits base text).2 := by
      rw [Option.some.inj reads]
    rw [behind]
    clear reads behind
    fun_induction moreDigits base text <;> simp_all <;> omega

theorem inLine_digits? (base : Nat) : InLine (digits? base) := by
  have equality : digits? base = Reader.andThen (digitOf? base) fun digit =>
      Reader.andThen (fun text => some (moreDigits base text)) fun digits rest =>
        some (digit :: digits, rest) := by
    funext text
    cases text with
    | nil => rfl
    | cons c rest =>
        rw [digits?, Reader.andThen, digitOf?]
        cases Numeral.digit? base c <;> rfl
  rw [equality]
  exact .andThen (inLine_digitOf? base) fun digit => .andThen (inLine_moreDigits base)
    fun digits => .result (digit :: digits)

/-! ## Numbers -/

theorem inLine_sign : InLine fun text => some (sign text) := by
  refine .ofWords [['-'], ['+']] (by decide) ?_ ?_ (.result false)
  · exact List.forall_mem_cons.mpr ⟨.result true, List.forall_mem_singleton.mpr (.result false)⟩
  · intro text free
    unfold sign
    split <;> simp_all

theorem inLine_whole? : InLine whole? := by
  refine .ofWord ['0'] (by decide) (.result [0]) ?_ (inLine_digits? 10)
  intro text free
  unfold whole?
  split <;> simp_all

theorem inLine_fraction? : InLine fraction? := by
  refine .ofWord ['.'] (by decide) (inLine_digits? 10) ?_ (.result [])
  intro text free
  unfold fraction?
  split <;> simp_all

theorem inLine_exponent? : InLine exponent? := by
  have size : InLine (Reader.andThen (fun text => some (sign text)) fun negative =>
      Reader.andThen (digits? 10) fun digits rest =>
        let size : Int := Numeral.ofDigits 10 digits
        some (some (if negative then -size else size), rest)) :=
    .andThen inLine_sign fun negative => .andThen (inLine_digits? 10) fun digits => .result _
  refine .ofWords [['e'], ['E']] (by decide) ?_ ?_ (.result none)
  · exact List.forall_mem_cons.mpr ⟨size, List.forall_mem_singleton.mpr size⟩
  · intro text free
    unfold exponent?
    split
    · rfl
    · rw [if_neg (by simpa [eq_comm] using free)]

theorem inLine_decimal? (negative : Bool) : InLine (decimal? negative) := by
  unfold decimal?
  refine .bind inLine_whole? fun whole => .bind inLine_fraction? fun fraction =>
    .bind inLine_exponent? fun exponent => .ite ?_ ?_
  · exact .given _ fun value => .result value
  · exact .given _ fun value => .result value

theorem inLine_based? (base : Nat) : InLine (based? base) :=
  .bind (inLine_digits? base) fun _ => .given _ fun value => .result value

theorem inLine_signed? (negative : Bool) : InLine (signed? negative) := by
  refine .ofWords ["inf".toList, "nan".toList] (by decide) ?_ ?_ (inLine_decimal? negative)
  · exact List.forall_mem_cons.mpr ⟨.result _, List.forall_mem_singleton.mpr (.result _)⟩
  · intro text free
    unfold signed?
    split <;> simp_all

theorem inLine_number? : InLine number? := by
  have signed : InLine (Reader.andThen (fun text => some (sign text)) signed?) :=
    .andThen inLine_sign inLine_signed?
  refine .ofWords ["0x".toList, "0o".toList, "0b".toList] (by decide) ?_ ?_ signed
  · exact List.forall_mem_cons.mpr ⟨inLine_based? 16, List.forall_mem_cons.mpr
      ⟨inLine_based? 8, List.forall_mem_singleton.mpr (inLine_based? 2)⟩⟩
  · intro text free
    unfold number?
    split <;> simp_all [Reader.andThen]

/-! ## Date-times -/

theorem inLine_date : InLine Date.literal? := by
  unfold Date.literal?
  refine .bind (inLine_take? 10 4) fun year => InLine.ofWord ['-'] (by decide) ?_ ?_ .nothing
  · refine .bind (inLine_take? 10 2) fun month => InLine.ofWord ['-'] (by decide) ?_ ?_ .nothing
    · exact .bind (inLine_take? 10 2) fun day => .ite (.result _) .nothing
    · intro text free
      dsimp only
      split <;> simp_all
  · intro text free
    dsimp only
    split <;> simp_all

theorem inLine_fractionLiteral : InLine fun text => some (Time.fractionLiteral text) where
  unify := by
    intro text
    have digits := takeWhile_unify Char.isDigit rfl rfl
    have behind := dropWhile_unify Char.isDigit rfl rfl
    have whole : ∀ text, ¬ ['.'] <+: text → Time.fractionLiteral text = (0, text) := by
      intro text free
      unfold Time.fractionLiteral
      split <;> simp_all
    by_cases point : ['.'] <+: text
    · obtain ⟨rest, rfl⟩ := point
      rw [unifyLineEnds_append (by decide)]
      simp only [List.singleton_append, Time.fractionLiteral, digits, behind]
      split <;> rfl
    · rw [whole text point, whole _ fun found => point (prefix_of_unify (by decide) found)]
      rfl
  onward := by
    intro text value rest reads
    have behind : rest = (Time.fractionLiteral text).2 := by
      rw [Option.some.inj reads]
    rw [behind]
    unfold Time.fractionLiteral
    split
    · dsimp only
      split
      · exact Nat.le_refl _
      · exact Nat.le_succ_of_le (List.dropWhile_sublist _).length_le
    · exact Nat.le_refl _

theorem inLine_time : InLine Time.literal? := by
  unfold Time.literal?
  refine .bind (inLine_take? 10 2) fun hour => InLine.ofWord [':'] (by decide) ?_ ?_ .nothing
  · refine .bind (inLine_take? 10 2) fun minute => InLine.ofWord [':'] (by decide) ?_ ?_ .nothing
    · refine .bind (inLine_take? 10 2) fun second => ?_
      have clock : InLine (Reader.andThen (fun text => some (Time.fractionLiteral text))
          fun nanosecond rest =>
            let time : Time := ⟨hour, minute, second, nanosecond⟩
            if time.Valid then some (time, rest) else none) :=
        .andThen inLine_fractionLiteral fun nanosecond => .ite (.result _) .nothing
      exact clock
    · intro text free
      dsimp only
      split <;> simp_all
  · intro text free
    dsimp only
    split <;> simp_all

theorem inLine_distance? : InLine Offset.distance? := by
  unfold Offset.distance?
  refine .bind (inLine_take? 10 2) fun hours => InLine.ofWord [':'] (by decide) ?_ ?_ .nothing
  · exact .bind (inLine_take? 10 2) fun minutes => .ite (.result _) .nothing
  · intro text free
    dsimp only
    split <;> simp_all

theorem inLine_offset : InLine Offset.literal? := by
  have ahead : InLine fun rest => (Offset.distance? rest).map
      fun (minutes, rest) => (Offset.ahead minutes, rest) :=
    inLine_distance?.map (f := fun (minutes : Nat) => Offset.ahead minutes)
  have behind : InLine fun rest => (Offset.distance? rest).map
      fun (minutes, rest) => (Offset.ahead (-minutes), rest) :=
    inLine_distance?.map (f := fun (minutes : Nat) => Offset.ahead (-minutes))
  refine .ofWords [['Z'], ['z'], ['+'], ['-']] (by decide) ?_ ?_ .nothing
  · exact List.forall_mem_cons.mpr ⟨.result _, List.forall_mem_cons.mpr
      ⟨.result _, List.forall_mem_cons.mpr ⟨ahead, List.forall_mem_singleton.mpr behind⟩⟩⟩
  · intro text free
    unfold Offset.literal?
    split <;> simp_all

theorem inLine_delimited? : InLine Time.delimited? := by
  refine .ofWords [['T'], ['t'], [' ']] (by decide) ?_ ?_ .nothing
  · exact List.forall_mem_cons.mpr ⟨inLine_time, List.forall_mem_cons.mpr
      ⟨inLine_time, List.forall_mem_singleton.mpr inLine_time⟩⟩
  · intro text free
    unfold Time.delimited?
    split <;> simp_all [isDateTimeDelimiter, eq_comm]

theorem inLine_datetime : InLine Datetime.literal? := by
  have equality : Datetime.literal? = Reader.elim Date.literal?
      (Reader.andThen Time.literal? fun clock rest => some (.time clock, rest))
      fun day => Reader.elim Time.delimited? (fun rest => some (.date day, rest))
        fun clock => Reader.elim Offset.literal? (fun rest => some (.dateAndTime day clock, rest))
          fun offset rest => some (.instant day clock offset, rest) := by
    funext text
    rw [Datetime.literal?, Reader.elim]
    rcases Date.literal? text with _ | ⟨day, rest⟩
    · rw [Option.elim_none, Reader.andThen]
      cases Time.literal? text <;> rfl
    simp only [Option.elim_some, Reader.elim]
    rcases Time.delimited? rest with _ | ⟨clock, behind⟩
    · rfl
    simp only [Option.elim_some]
    cases Offset.literal? behind <;> rfl
  rw [equality]
  refine .elim inLine_date (fun day => ?_) (.andThen inLine_time fun clock => .result _)
  refine .elim inLine_delimited? (fun clock => ?_) (.result _)
  exact .elim inLine_offset (fun offset => .result _) (.result _)

theorem inLine_numberOrDatetime? : InLine numberOrDatetime? := by
  have equality : numberOrDatetime? = Reader.elim Datetime.literal? number?
      fun datetime rest => some (.datetime datetime, rest) := by
    funext text
    rw [numberOrDatetime?, Reader.elim]
    cases Datetime.literal? text <;> rfl
  rw [equality]
  exact .elim inLine_datetime (fun datetime => .result _) inLine_number?

/-! ## Words -/

theorem inLine_word? : InLine word? := by
  refine .ofWords ["true".toList, "false".toList, "inf".toList, "nan".toList] (by decide) ?_ ?_
    .nothing
  · exact List.forall_mem_cons.mpr ⟨.result _, List.forall_mem_cons.mpr
      ⟨.result _, List.forall_mem_cons.mpr ⟨.result _, List.forall_mem_singleton.mpr
        (.result _)⟩⟩⟩
  · intro text free
    unfold word?
    split <;> simp_all

/-- Reads a number, a date-time or a word. -/
def unquoted : Reader Value
  | [] => none
  | c :: rest =>
    if c = '+' ∨ c = '-' ∨ c.isDigit then numberOrDatetime? (c :: rest) else word? (c :: rest)

theorem inLine_unquoted : InLine unquoted := by
  refine .ofClass (fun c => c = '+' ∨ c = '-' ∨ c.isDigit) (by decide) (by decide) ?_ ?_
    inLine_numberOrDatetime? inLine_word?
  · rintro text ⟨c, first, numeric⟩
    obtain ⟨rest, rfl⟩ := List.head?_eq_some_iff.mp first
    exact and_self_iff.mpr (if_pos numeric)
  · intro text other
    refine and_self_iff.mpr ?_
    cases text with
    | nil => rfl
    | cons c rest => exact if_neg fun numeric => other ⟨c, rfl, numeric⟩

end UserRegistry.Toml
