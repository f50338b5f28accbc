import UserRegistry.Datetime.Literal
import UserRegistry.Proofs.Calendar
import UserRegistry.Proofs.DigitRows

/-!
# Spellings of date-times

`Datetime.Spells` relates a text to the date-time that it denotes: a date has one
spelling, a fraction of a second any number of digits, of which nine count, and an offset
of zero two signs.  The reader of literals accepts exactly these spellings, and the
canonical text of a date-time is one of them.
-/

namespace UserRegistry

/-! ## Dates -/

namespace Date

variable {day : Date} {text rest : List Char}

theorem Valid.bounds (valid : day.Valid) :
    day.year < Nat.pow 10 4 ∧ day.month ≤ 99 ∧ day.day ≤ 99 := by
  obtain ⟨year, _, month, _, last⟩ := valid
  have longest := daysInMonth_le day.year day.month
  simp only [Nat.pow_eq, Nat.reducePow]
  omega

theorem literal?_written (valid : day.Valid) (rest : List Char) :
    literal? (day.written ++ rest) = some (day, rest) := by
  obtain ⟨year, month, last⟩ := valid.bounds
  unfold literal?
  simp only [written, List.append_assoc, List.cons_append, Option.bind_eq_bind,
    Numeral.take?_padded (Nat.succ_pos 3) year, Numeral.take?_two month,
    Numeral.take?_two last, Option.bind_some]
  exact if_pos valid

theorem written_of_literal? (read : literal? text = some (day, rest)) :
    day.Valid ∧ text = day.written ++ rest := by
  unfold literal? at read
  obtain ⟨⟨year, afterYear⟩, takenYear, read⟩ := Option.bind_eq_some_iff.mp read
  dsimp only at read
  split at read
  · obtain ⟨⟨month, afterMonth⟩, takenMonth, read⟩ := Option.bind_eq_some_iff.mp read
    dsimp only at read
    split at read
    · obtain ⟨⟨last, behind⟩, takenDay, read⟩ := Option.bind_eq_some_iff.mp read
      dsimp only at read
      split at read
      · rename_i valid
        cases read
        obtain ⟨_, rfl⟩ := (Numeral.take?_eq_some_iff (by omega)).mp takenYear
        obtain ⟨_, rfl⟩ := (Numeral.take?_eq_some_iff (by omega)).mp takenMonth
        obtain ⟨_, rfl⟩ := (Numeral.take?_eq_some_iff (by omega)).mp takenDay
        refine ⟨valid, ?_⟩
        simp only [written, List.append_assoc, List.cons_append]
      · contradiction
    · contradiction
  · contradiction

end Date

/-! ## Fractions of a second -/

/-- The nanoseconds that a row of digits behind a point denotes: the fraction of a second,
cut after nine digits. -/
def nanosecondsOfRow (digits : List Char) : Nat :=
  Nat.ofDigitChars 10 digits 0 * Nat.pow 10 9 / Nat.pow 10 digits.length

/-- Only nine digits count, and fewer are filled up with zeros. -/
theorem nanosecondsOf_values {digits : List Char}
    (isDigit : ∀ c ∈ digits, c.isDigit = true) :
    nanosecondsOf (Numeral.values digits) = nanosecondsOfRow digits := by
  have taken : (Numeral.values digits).take 9 = Numeral.values (digits.take 9) :=
    List.map_take.symm
  have count : (Numeral.values digits).length = digits.length := List.length_map _
  rw [nanosecondsOf, nanosecondsOfRow, taken, Numeral.ofDigits_values, count]
  by_cases short : digits.length ≤ 9
  · have filled : Nat.pow 10 9 =
        Nat.pow 10 (9 - digits.length) * Nat.pow 10 digits.length := by
      rw [← Numeral.pow_add, Nat.sub_add_cancel short]
    rw [List.take_of_length_le short, filled, ← Nat.mul_assoc,
      Nat.mul_div_cancel _ (Numeral.pow_pos _)]
  · have whole : Nat.pow 10 digits.length =
        Nat.pow 10 (digits.length - 9) * Nat.pow 10 9 := by
      rw [← Numeral.pow_add, Nat.sub_add_cancel (by omega)]
    have split := Numeral.ofDigitChars_append (digits.take 9) (digits.drop 9)
    have behind : ∀ c ∈ digits.drop 9, c.isDigit = true :=
      fun c inside => isDigit c (List.mem_of_mem_drop inside)
    have cut := Numeral.ofDigitChars_lt behind
    rw [List.take_append_drop, List.length_drop] at split
    rw [List.length_drop] at cut
    rw [Nat.sub_eq_zero_of_le (by omega), whole,
      Nat.mul_div_mul_right _ _ (Numeral.pow_pos 9), split,
      Nat.mul_add_div (Numeral.pow_pos _), Nat.div_eq_of_lt cut]
    exact Nat.mul_one _

namespace Time

/-- A fraction of a second: nothing, or a point and digits. -/
inductive SpellsFraction : List Char → Nat → Prop where
  | absent : SpellsFraction [] 0
  | digits {digits : List Char} (nonempty : digits ≠ [])
      (isDigit : ∀ c ∈ digits, c.isDigit = true) :
      SpellsFraction ('.' :: digits) (nanosecondsOfRow digits)

/-- A text that neither continues a row of digits nor starts a fraction. -/
def Closed (rest : List Char) : Prop :=
  ∀ c ∈ rest.head?, c.isDigit = false ∧ c ≠ '.'

variable {front rest : List Char} {nanosecond : Nat}

theorem closed_of_delimited (delimited : Text.Delimited rest) : Closed rest := by
  intro c first
  have delimiter := delimited c first
  refine ⟨Text.isDigit_delimiter c delimiter, ?_⟩
  rintro rfl
  exact absurd delimiter (by decide)

theorem fractionLiteral_of_spells (spells : SpellsFraction front nanosecond)
    (closed : Closed rest) : fractionLiteral (front ++ rest) = (nanosecond, rest) := by
  cases spells with
  | absent =>
      unfold fractionLiteral
      split
      · rename_i equality
        rw [List.nil_append] at equality
        rw [equality] at closed
        exact absurd rfl (closed '.' rfl).2
      · rfl
  | @digits digits nonempty isDigit =>
      have taken := Text.takeWhile_of_refused isDigit fun c first => (closed c first).1
      have dropped := Text.dropWhile_of_refused isDigit fun c first => (closed c first).1
      have values : Numeral.values digits ≠ [] := by simpa [Numeral.values] using nonempty
      simp only [List.cons_append, fractionLiteral, taken, dropped,
        Numeral.filterMap_digit? isDigit]
      rw [if_neg (by simpa using values), nanosecondsOf_values isDigit]

theorem spells_fractionLiteral (text : List Char) :
    ∃ front, text = front ++ (fractionLiteral text).2 ∧
      SpellsFraction front (fractionLiteral text).1 := by
  unfold fractionLiteral
  split
  · rename_i rest
    have isDigit : ∀ c ∈ rest.takeWhile Char.isDigit, c.isDigit = true :=
      List.all_eq_true.mp List.all_takeWhile
    simp only [Numeral.filterMap_digit? isDigit]
    split
    · exact ⟨[], rfl, .absent⟩
    · rename_i present
      refine ⟨'.' :: rest.takeWhile Char.isDigit, ?_, ?_⟩
      · rw [List.cons_append, List.takeWhile_append_dropWhile]
      · rw [nanosecondsOf_values isDigit]
        refine .digits ?_ isDigit
        intro empty
        exact present (by rw [empty]; rfl)
  · exact ⟨[], rfl, .absent⟩

/-! ## Times -/

/-- Hour, minute and second of a time that exists, and a fraction of the second. -/
inductive Spells : List Char → Time → Prop where
  | intro {clock : Time} {fraction : List Char} (valid : clock.Valid)
      (spelled : SpellsFraction fraction clock.nanosecond) :
      Spells (Numeral.padded 2 clock.hour ++ ':' :: Numeral.padded 2 clock.minute
        ++ ':' :: Numeral.padded 2 clock.second ++ fraction) clock

variable {clock : Time} {text : List Char}

theorem literal?_of_spells (spells : Spells text clock) (closed : Closed rest) :
    literal? (text ++ rest) = some (clock, rest) := by
  obtain ⟨valid, spelled⟩ := spells
  have hour : clock.hour ≤ 99 := Nat.le_trans valid.1 (by omega)
  have minute : clock.minute ≤ 99 := Nat.le_trans valid.2.1 (by omega)
  have second : clock.second ≤ 99 := Nat.le_trans valid.2.2.1 (by omega)
  unfold literal?
  simp only [List.append_assoc, List.cons_append, Option.bind_eq_bind,
    Numeral.take?_two hour, Numeral.take?_two minute, Numeral.take?_two second,
    Option.bind_some, fractionLiteral_of_spells spelled closed]
  exact if_pos valid

theorem spells_of_literal? (read : literal? text = some (clock, rest)) :
    ∃ front, text = front ++ rest ∧ Spells front clock := by
  unfold literal? at read
  obtain ⟨⟨hour, afterHour⟩, takenHour, read⟩ := Option.bind_eq_some_iff.mp read
  dsimp only at read
  split at read
  · obtain ⟨⟨minute, afterMinute⟩, takenMinute, read⟩ := Option.bind_eq_some_iff.mp read
    dsimp only at read
    split at read
    · obtain ⟨⟨second, afterSecond⟩, takenSecond, read⟩ := Option.bind_eq_some_iff.mp read
      dsimp only at read
      split at read
      · rename_i valid
        cases read
        obtain ⟨_, rfl⟩ := (Numeral.take?_eq_some_iff (by omega)).mp takenHour
        obtain ⟨_, rfl⟩ := (Numeral.take?_eq_some_iff (by omega)).mp takenMinute
        obtain ⟨_, rfl⟩ := (Numeral.take?_eq_some_iff (by omega)).mp takenSecond
        obtain ⟨fraction, text, spelled⟩ := spells_fractionLiteral afterSecond
        refine ⟨_, ?_, .intro valid spelled⟩
        simp only [List.append_assoc, List.cons_append]
        rw [← text]
      · contradiction
    · contradiction
  · contradiction

end Time

/-! ## Offsets -/

namespace Offset

/-- The letter `Z` in either case, or a sign with hours and minutes; before a distance of
zero the sign makes no difference. -/
inductive Spells : List Char → Offset → Prop where
  | upper : Spells ['Z'] .utc
  | lower : Spells ['z'] .utc
  | ahead {hours minutes : Nat} (shortHours : hours ≤ 23) (shortMinutes : minutes ≤ 59) :
      Spells ('+' :: Numeral.padded 2 hours ++ ':' :: Numeral.padded 2 minutes)
        (.ahead (hours * 60 + minutes : Nat))
  | behind {hours minutes : Nat} (shortHours : hours ≤ 23) (shortMinutes : minutes ≤ 59) :
      Spells ('-' :: Numeral.padded 2 hours ++ ':' :: Numeral.padded 2 minutes)
        (.ahead (-(hours * 60 + minutes : Nat)))

variable {offset : Offset} {text rest : List Char}

theorem distance?_written {hours minutes : Nat} (shortHours : hours ≤ 23)
    (shortMinutes : minutes ≤ 59) (rest : List Char) :
    distance? (Numeral.padded 2 hours ++ ':' :: Numeral.padded 2 minutes ++ rest) =
      some (hours * 60 + minutes, rest) := by
  have twoHours : hours ≤ 99 := by omega
  have twoMinutes : minutes ≤ 99 := by omega
  unfold distance?
  simp only [List.append_assoc, List.cons_append, Option.bind_eq_bind,
    Numeral.take?_two twoHours, Numeral.take?_two twoMinutes, Option.bind_some]
  exact if_pos ⟨shortHours, shortMinutes⟩

theorem written_of_distance? {distance : Nat} (read : distance? text = some (distance, rest)) :
    ∃ hours minutes, hours ≤ 23 ∧ minutes ≤ 59 ∧ distance = hours * 60 + minutes ∧
      text = Numeral.padded 2 hours ++ ':' :: Numeral.padded 2 minutes ++ rest := by
  unfold distance? at read
  obtain ⟨⟨hours, afterHours⟩, takenHours, read⟩ := Option.bind_eq_some_iff.mp read
  dsimp only at read
  split at read
  · obtain ⟨⟨minutes, behind⟩, takenMinutes, read⟩ := Option.bind_eq_some_iff.mp read
    dsimp only at read
    split at read
    · rename_i short
      cases read
      obtain ⟨_, rfl⟩ := (Numeral.take?_eq_some_iff (by omega)).mp takenHours
      obtain ⟨_, rfl⟩ := (Numeral.take?_eq_some_iff (by omega)).mp takenMinutes
      refine ⟨hours, minutes, short.1, short.2, rfl, ?_⟩
      simp only [List.append_assoc, List.cons_append]
    · contradiction
  · contradiction

theorem literal?_of_spells (spells : Spells text offset) (rest : List Char) :
    literal? (text ++ rest) = some (offset, rest) := by
  cases spells with
  | upper => rfl
  | lower => rfl
  | ahead shortHours shortMinutes =>
      rw [List.cons_append, List.cons_append, literal?,
        distance?_written shortHours shortMinutes]
      rfl
  | behind shortHours shortMinutes =>
      rw [List.cons_append, List.cons_append, literal?,
        distance?_written shortHours shortMinutes]
      rfl

theorem spells_of_literal? (read : literal? text = some (offset, rest)) :
    ∃ front, text = front ++ rest ∧ Spells front offset := by
  unfold literal? at read
  split at read
  · cases read
    exact ⟨['Z'], rfl, .upper⟩
  · cases read
    exact ⟨['z'], rfl, .lower⟩
  · obtain ⟨⟨distance, behind⟩, found, equality⟩ := Option.map_eq_some_iff.mp read
    cases equality
    obtain ⟨hours, minutes, shortHours, shortMinutes, rfl, rfl⟩ := written_of_distance? found
    exact ⟨_, rfl, .ahead shortHours shortMinutes⟩
  · obtain ⟨⟨distance, behind⟩, found, equality⟩ := Option.map_eq_some_iff.mp read
    cases equality
    obtain ⟨hours, minutes, shortHours, shortMinutes, rfl, rfl⟩ := written_of_distance? found
    exact ⟨_, rfl, .behind shortHours shortMinutes⟩
  · contradiction

theorem closed_of_spells (spells : Spells text offset) (rest : List Char) :
    Time.Closed (text ++ rest) := by
  intro c first
  cases spells <;> cases first <;> decide

theorem literal?_of_delimited (delimited : Text.Delimited rest) : literal? rest = none := by
  unfold literal?
  split
  · exact absurd (delimited 'Z' rfl) (by decide)
  · exact absurd (delimited 'z' rfl) (by decide)
  · exact absurd (delimited '+' rfl) (by decide)
  · exact absurd (delimited '-' rfl) (by decide)
  · rfl

end Offset

/-! ## Date-times -/

namespace Datetime

/-- The literals of a date-time: a date, a time, both with one of three delimiters between
them, or both and an offset. -/
inductive Spells : List Char → Datetime → Prop where
  | date {day : Date} (valid : day.Valid) : Spells day.written (.date day)
  | time {text : List Char} {clock : Time} (spelled : Time.Spells text clock) :
      Spells text (.time clock)
  | dateAndTime {day : Date} {delimiter : Char} {text : List Char} {clock : Time}
      (valid : day.Valid) (delimits : delimiter ∈ ['T', 't', ' '])
      (spelled : Time.Spells text clock) :
      Spells (day.written ++ delimiter :: text) (.dateAndTime day clock)
  | instant {day : Date} {delimiter : Char} {text offsetText : List Char} {clock : Time}
      {offset : Offset} (valid : day.Valid) (delimits : delimiter ∈ ['T', 't', ' '])
      (spelled : Time.Spells text clock) (offsetSpelled : Offset.Spells offsetText offset) :
      Spells (day.written ++ delimiter :: (text ++ offsetText)) (.instant day clock offset)

variable {value : Datetime} {text rest : List Char}

/-- A time is not taken for a date, which would have digits in place of its colon. -/
theorem noDate_of_spells {clock : Time} (spells : Time.Spells text clock)
    (rest : List Char) : Date.literal? (text ++ rest) = none := by
  cases read : Date.literal? (text ++ rest) with
  | none => rfl
  | some result =>
      obtain ⟨day, behind⟩ := result
      obtain ⟨valid, written⟩ := Date.written_of_literal? read
      obtain ⟨year, _, _⟩ := valid.bounds
      have width : (Numeral.padded 4 day.year).length = 4 :=
        Numeral.length_padded (by omega) year
      obtain ⟨existing, _⟩ := spells
      have hourWidth : (Numeral.padded 2 clock.hour).length = 2 :=
        Numeral.length_padded (by omega) (Nat.lt_of_le_of_lt existing.1 (by decide))
      have inside : 2 < (Numeral.padded 4 day.year).length := by omega
      have third := congrArg (fun text => text[2]?) written
      simp only [Date.written, List.append_assoc, List.cons_append] at third
      rw [List.getElem?_append_right (Nat.le_of_eq hourWidth), hourWidth,
        List.getElem?_append_left inside, List.getElem?_eq_getElem inside] at third
      have colon : ':' ∈ Numeral.padded 4 day.year := by
        rw [Option.some.inj third]
        exact List.getElem_mem inside
      exact absurd (Numeral.isDigit_of_mem_padded colon) (by decide)

theorem delimited?_of_delimited (delimited : Text.Delimited rest) :
    Time.delimited? rest = none := by
  unfold Time.delimited?
  split
  · rename_i delimiter rest
    have known := delimited delimiter rfl
    rw [if_neg]
    intro delimits
    simp only [isDateTimeDelimiter, Bool.or_eq_true, decide_eq_true_eq] at delimits
    rcases delimits with (rfl | rfl) | rfl <;> exact absurd known (by decide)
  · rfl

theorem isDateTimeDelimiter_iff {c : Char} :
    isDateTimeDelimiter c = true ↔ c ∈ ['T', 't', ' '] := by
  simp [isDateTimeDelimiter, or_assoc]

theorem delimited?_of_spells {delimiter : Char} {clock : Time}
    (delimits : delimiter ∈ ['T', 't', ' ']) (spells : Time.Spells text clock)
    (closed : Time.Closed rest) :
    Time.delimited? (delimiter :: (text ++ rest)) = some (clock, rest) := by
  rw [Time.delimited?, if_pos (isDateTimeDelimiter_iff.mpr delimits)]
  exact Time.literal?_of_spells spells closed

theorem literal?_of_spells (spells : Spells text value) (delimited : Text.Delimited rest) :
    literal? (text ++ rest) = some (value, rest) := by
  have closed := Time.closed_of_delimited delimited
  cases spells with
  | date valid =>
      rw [literal?, Date.literal?_written valid]
      simp only [delimited?_of_delimited delimited]
  | time spelled =>
      rw [literal?, noDate_of_spells spelled, Time.literal?_of_spells spelled closed]
      rfl
  | dateAndTime valid delimits spelled =>
      rw [literal?, List.append_assoc, Date.literal?_written valid, List.cons_append]
      simp only [delimited?_of_spells delimits spelled closed,
        Offset.literal?_of_delimited delimited]
  | instant valid delimits spelled offsetSpelled =>
      rw [literal?, List.append_assoc, Date.literal?_written valid, List.cons_append,
        List.append_assoc]
      simp only [delimited?_of_spells delimits spelled
        (Offset.closed_of_spells offsetSpelled _), Offset.literal?_of_spells offsetSpelled]

theorem spells_of_literal? (read : literal? text = some (value, rest)) :
    ∃ front, text = front ++ rest ∧ Spells front value := by
  unfold literal? at read
  split at read
  · rename_i day afterDay dated
    obtain ⟨valid, rfl⟩ := Date.written_of_literal? dated
    split at read
    · rename_i clock afterTime timed
      obtain ⟨delimiter, behind, rfl, delimits, timed⟩ :
          ∃ delimiter behind, afterDay = delimiter :: behind ∧
            delimiter ∈ ['T', 't', ' '] ∧ Time.literal? behind = some (clock, afterTime) := by
        unfold Time.delimited? at timed
        split at timed
        · split at timed
          · rename_i delimits
            exact ⟨_, _, rfl, isDateTimeDelimiter_iff.mp delimits, timed⟩
          · contradiction
        · contradiction
      obtain ⟨front, rfl, spelled⟩ := Time.spells_of_literal? timed
      split at read
      · rename_i offset behind found
        cases read
        obtain ⟨offsetText, rfl, offsetSpelled⟩ := Offset.spells_of_literal? found
        refine ⟨_, ?_, .instant valid delimits spelled offsetSpelled⟩
        simp only [List.append_assoc, List.cons_append]
      · cases read
        refine ⟨_, ?_, .dateAndTime valid delimits spelled⟩
        simp only [List.append_assoc, List.cons_append]
    · cases read
      exact ⟨_, rfl, .date valid⟩
  · obtain ⟨⟨clock, behind⟩, timed, equality⟩ := Option.map_eq_some_iff.mp read
    cases equality
    obtain ⟨front, rfl, spelled⟩ := Time.spells_of_literal? timed
    exact ⟨front, rfl, .time spelled⟩

theorem spells_iff_literal? : Spells text value ↔ literal? text = some (value, []) := by
  constructor
  · intro spells
    simpa using literal?_of_spells spells Text.delimited_nil
  · intro read
    obtain ⟨front, rfl, spells⟩ := spells_of_literal? read
    rwa [List.append_nil]

end Datetime

/-! ## Canonical texts -/

/-- A row of digits ends in some zeros, which its canonical fraction leaves out. -/
theorem exists_trailingZeros (row : List Char) :
    ∃ zeros, row = (row.reverse.dropWhile (· = '0')).reverse ++ List.replicate zeros '0' := by
  refine ⟨(row.reverse.takeWhile (· = '0')).length, ?_⟩
  have allZero : ∀ c ∈ row.reverse.takeWhile (· = '0'), c = '0' := by
    intro c inside
    simpa using List.all_eq_true.mp List.all_takeWhile c inside
  have whole : row.reverse =
      row.reverse.takeWhile (· = '0') ++ row.reverse.dropWhile (· = '0') :=
    List.takeWhile_append_dropWhile.symm
  rw [← List.reverse_replicate, ← List.eq_replicate_of_mem allZero, ← List.reverse_append,
    ← whole, List.reverse_reverse]

theorem nanosecondsOfRow_of_zeros {row kept : List Char} {zeros : Nat} (width : row.length = 9)
    (split : row = kept ++ List.replicate zeros '0') :
    nanosecondsOfRow kept = Nat.ofDigitChars 10 row 0 := by
  have lengths : zeros + kept.length = 9 := by
    rw [← width, split, List.length_append, List.length_replicate, Nat.add_comm]
  rw [nanosecondsOfRow, ← lengths, Numeral.pow_add, ← Nat.mul_assoc,
    Nat.mul_div_cancel _ (Numeral.pow_pos _), split, Numeral.ofDigitChars_append,
    List.length_replicate, Nat.ofDigitChars_replicate_zero, Nat.mul_zero, Nat.add_zero,
    Nat.mul_comm]

theorem Time.spellsFraction_written {nanosecond : Nat} (bound : nanosecond < 1000000000) :
    SpellsFraction (writtenFraction nanosecond) nanosecond := by
  unfold writtenFraction
  split
  · subst nanosecond
    exact .absent
  · rename_i present
    obtain ⟨zeros, split⟩ := exists_trailingZeros (Numeral.padded 9 nanosecond)
    have width : (Numeral.padded 9 nanosecond).length = 9 :=
      Numeral.length_padded (by omega) bound
    generalize ((Numeral.padded 9 nanosecond).reverse.dropWhile (· = '0')).reverse = kept at split
    have value := nanosecondsOfRow_of_zeros width split
    rw [Numeral.ofDigitChars_padded] at value
    have nonempty : kept ≠ [] := by
      rintro rfl
      exact present (value.symm.trans (by decide))
    have isDigit : ∀ c ∈ kept, c.isDigit = true := by
      intro c inside
      apply Numeral.isDigit_of_mem_padded
      rw [split]
      exact List.mem_append_left _ inside
    have spelled := SpellsFraction.digits nonempty isDigit
    rwa [value] at spelled

theorem Time.spells_written {clock : Time} (valid : clock.Valid) :
    Spells clock.written clock :=
  .intro valid (spellsFraction_written valid.2.2.2)

theorem Offset.valid_of_spells {text : List Char} {offset : Offset}
    (spells : Spells text offset) : offset.Valid := by
  cases spells with
  | upper => trivial
  | lower => trivial
  | ahead shortHours shortMinutes =>
      simp only [Valid]
      omega
  | behind shortHours shortMinutes =>
      simp only [Valid]
      omega

theorem Offset.spells_written {offset : Offset} (valid : offset.Valid) :
    Spells offset.written offset := by
  cases offset with
  | utc => exact .upper
  | ahead minutes =>
      have short : minutes.natAbs < 1440 := valid
      have hours : minutes.natAbs / 60 ≤ 23 := by omega
      have rest : minutes.natAbs % 60 ≤ 59 := by omega
      rw [written]
      split
      · have spelled := Spells.behind hours rest
        rwa [show -((minutes.natAbs / 60 * 60 + minutes.natAbs % 60 : Nat) : Int) = minutes
          by omega] at spelled
      · have spelled := Spells.ahead hours rest
        rwa [show ((minutes.natAbs / 60 * 60 + minutes.natAbs % 60 : Nat) : Int) = minutes
          by omega] at spelled

namespace Datetime

/-- All parts exist. -/
def Valid : Datetime → Prop
  | .date day => day.Valid
  | .time clock => clock.Valid
  | .dateAndTime day clock => day.Valid ∧ clock.Valid
  | .instant day clock offset => day.Valid ∧ clock.Valid ∧ offset.Valid

variable {value : Datetime} {text : List Char}

theorem valid_of_spells (spells : Spells text value) : value.Valid := by
  have existing {text : List Char} {clock : Time} (spelled : Time.Spells text clock) :
      clock.Valid := by
    obtain ⟨valid, _⟩ := spelled
    exact valid
  cases spells with
  | date valid => exact valid
  | time spelled => exact existing spelled
  | dateAndTime valid _ spelled => exact ⟨valid, existing spelled⟩
  | instant valid _ spelled offsetSpelled =>
      exact ⟨valid, existing spelled, Offset.valid_of_spells offsetSpelled⟩

/-- The canonical text is a literal of the date-time that it is written for. -/
theorem spells_written (valid : value.Valid) : Spells value.written value := by
  cases value with
  | date day => exact .date valid
  | time clock => exact .time (Time.spells_written valid)
  | dateAndTime day clock =>
      exact .dateAndTime valid.1 List.mem_cons_self (Time.spells_written valid.2)
  | instant day clock offset =>
      obtain ⟨existing, timeValid, offsetValid⟩ := valid
      have spelled := Spells.instant existing List.mem_cons_self
        (Time.spells_written timeValid) (Offset.spells_written offsetValid)
      rw [written, List.append_assoc]
      exact spelled

/-- A literal denotes one date-time. -/
theorem eq_of_spells {other : Datetime} (spells : Spells text value)
    (otherSpells : Spells text other) : value = other := by
  have read := spells_iff_literal?.mp spells
  rw [spells_iff_literal?.mp otherSpells] at read
  cases read
  rfl

theorem text_eq_iff {other : Datetime} (valid : value.Valid) (otherValid : other.Valid) :
    value.text = other.text ↔ value = other := by
  constructor
  · intro equality
    have written : value.written = other.written := by
      simpa [Datetime.text] using congrArg String.toList equality
    have spells := spells_written valid
    rw [written] at spells
    exact eq_of_spells spells (spells_written otherValid)
  · rintro rfl
    rfl

/-! ## Characters of literals -/

theorem start_append {front : List Char}
    (start : ∃ c tail, front = c :: tail ∧ c.isDigit = true) (rest : List Char) :
    ∃ c tail, front ++ rest = c :: tail ∧ c.isDigit = true := by
  obtain ⟨c, tail, rfl, digit⟩ := start
  exact ⟨c, tail ++ rest, rfl, digit⟩

theorem start_of_spells (spells : Spells text value) :
    ∃ c tail, text = c :: tail ∧ c.isDigit = true := by
  have date (day : Date) : ∃ c tail, day.written = c :: tail ∧ c.isDigit = true :=
    start_append (start_append (Numeral.padded_start 4 day.year) _) _
  cases spells with
  | date valid => exact date _
  | time spelled =>
      obtain ⟨_, _⟩ := spelled
      exact start_append (start_append (start_append (Numeral.padded_start 2 _) _) _) _
  | dateAndTime _ _ _ => exact start_append (date _) _
  | instant _ _ _ _ => exact start_append (date _) _

theorem noReturn_of_spells (spells : Spells text value) : '\r' ∉ text := by
  have noRow {width n : Nat} : '\r' ∉ Numeral.padded width n := Numeral.not_mem_padded rfl
  have noDate {day : Date} : '\r' ∉ day.written := by simp [Date.written, noRow]
  have noFraction {text : List Char} {nanosecond : Nat}
      (spelled : Time.SpellsFraction text nanosecond) : '\r' ∉ text := by
    cases spelled with
    | absent => exact List.not_mem_nil
    | digits _ isDigit =>
        intro inside
        rcases List.mem_cons.mp inside with equality | inside
        · contradiction
        · exact absurd (isDigit _ inside) (by decide)
  have noTime {text : List Char} {clock : Time} (spelled : Time.Spells text clock) :
      '\r' ∉ text := by
    obtain ⟨_, fraction⟩ := spelled
    simp [noRow, noFraction fraction]
  have noOffset {text : List Char} {offset : Offset} (spelled : Offset.Spells text offset) :
      '\r' ∉ text := by
    cases spelled <;> simp [noRow]
  have noDelimiter {c : Char} (delimits : c ∈ ['T', 't', ' ']) : '\r' ≠ c := by
    rintro rfl
    exact absurd delimits (by decide)
  cases spells with
  | date valid => exact noDate
  | time spelled => exact noTime spelled
  | dateAndTime _ delimits spelled => simp [noDate, noTime spelled, noDelimiter delimits]
  | instant _ delimits spelled offsetSpelled =>
      simp [noDate, noTime spelled, noOffset offsetSpelled, noDelimiter delimits]

end Datetime

end UserRegistry
