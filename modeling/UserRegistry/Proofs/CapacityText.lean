import UserRegistry.Proofs.ConfigAcceptance
import UserRegistry.Proofs.ConfigText

/-!
# Capacities of any size

A text that gives nothing but a capacity, as a decimal numeral, is accepted with that very
number or refused, and why it is refused depends on the number alone: it may fit no integer
of 64 bits, be negative, be zero, or be too large.
-/

namespace UserRegistry

theorem Numeral.toList_repr (n : Int) : n.repr.toList = signed n := by
  cases n with
  | ofNat n => exact Nat.toList_repr
  | negSucc n =>
      have written : (Int.negSucc n).repr = "-" ++ (n + 1).repr := rfl
      rw [written, String.toList_append, Nat.toList_repr]
      rfl

namespace Config

open Toml

/-- A text whose only statement gives a capacity. -/
def capacityText (capacity : Int) : String :=
  String.join ["[memory]\nuser_capacity = ", toString capacity, "\n"]

/-- What such a text is as a document. -/
def capacityDocument (capacity : Int) : Entries :=
  [("memory", .table [("user_capacity", .integer capacity)])]

theorem toList_capacityText (capacity : Int) :
    (capacityText capacity).toList =
      (('[' :: "memory".toList ++ [']']) ++ ['\n']) ++
        ("user_capacity".toList ++ ' ' :: '=' :: ' ' ::
          (Numeral.signed capacity ++ ['\n'])) := by
  simp [capacityText, String.join, Numeral.toList_repr]

theorem head?_capacityText (capacity : Int) :
    (capacityText capacity).toList.head? ≠ some '\ufeff' := by
  rw [toList_capacityText]
  simp only [List.cons_append, List.head?_cons]
  decide

theorem lines_memoryHeader :
    Lines (('[' :: "memory".toList ++ [']']) ++ ['\n']) [.table ["memory"]] :=
  .cons (readsAs_table (fun _ => rfl) (by decide) (by decide)) .nil

theorem readsAsKey_capacity : ReadsAsKey "user_capacity".toList "user_capacity" :=
  readsAsKey_field (by decide)

/-! ## Documents -/

theorem parse?_capacityText {capacity : Int} (lower : -Numeral.signedBound ≤ capacity)
    (upper : capacity < Numeral.signedBound) :
    Toml.parse? (capacityText capacity) = some (capacityDocument capacity) := by
  have line : ReadsAs ("user_capacity".toList ++ ' ' :: '=' :: ' ' :: Numeral.signed capacity)
      (.assignment ["user_capacity"] (.integer capacity)) :=
    readsAs_assignment readsAsKey_capacity (readsBack_integer ⟨lower, upper⟩) (Nat.zero_le _)
  have lines : Lines (capacityText capacity).toList
      ([Section.ofEntries (.table ["memory"]) [("user_capacity", .integer capacity)]].flatMap
        Section.statements) := by
    have both := lines_memoryHeader.append (.cons line .nil)
    rw [List.append_assoc _ _ ('\n' :: [])] at both
    rw [toList_capacityText]
    exact both
  exact document?_of_lines lines (head?_capacityText capacity) rfl

/-- A numeral that fits no integer of 64 bits makes the text no document. -/
theorem parse?_capacityText_of_outside {capacity : Int}
    (outside : ¬ (-Numeral.signedBound ≤ capacity ∧ capacity < Numeral.signedBound)) :
    Toml.parse? (capacityText capacity) = none := by
  have unreadable (fuel : Nat) : value? fuel nestingLimit
      (skipBlanks (' ' :: (Numeral.signed capacity ++ ['\n']))) = none := by
    obtain ⟨c, tail, text, first⟩ := Numeral.signed_start capacity
    have blanks : skipBlanks (' ' :: (Numeral.signed capacity ++ ['\n'])) =
        Numeral.signed capacity ++ ['\n'] := by
      rw [skipBlanks_space, text, List.cons_append, skipBlanks_cons (own_of_number first).1]
    cases fuel with
    | zero => rfl
    | succ fuel =>
        rw [blanks, value?_signed capacity (Text.delimited_cons [] (by decide)), integer?,
          if_neg outside]
        rfl
  have noReturn : '\r' ∉ "user_capacity".toList ++
      ' ' :: '=' :: ' ' :: (Numeral.signed capacity ++ ['\n']) := by
    simp [noReturn_signed]
  have noMark := head?_capacityText capacity
  rw [toList_capacityText] at noMark
  rw [Toml.parse?, toList_capacityText]
  exact document?_of_unreadable lines_memoryHeader noMark noReturn
    (statements?_of_unreadable readsAsKey_capacity unreadable)

/-! ## Configurations -/

theorem parse_of_negative {capacity : Int} (lower : -Numeral.signedBound ≤ capacity)
    (negative : capacity < 0) :
    parse (capacityText capacity) = .error (.malformed (some (.negativeSize capacity))) := by
  have document := parse?_capacityText lower (by omega)
  have misread : read (capacityDocument capacity) = .error (.negativeSize capacity) := by
    cases capacity with
    | ofNat n => exact absurd negative (Int.not_lt.mpr (Int.natCast_nonneg n))
    | negSucc n => rfl
  exact parse_of_misread document misread

/-- A capacity that is an integer and not negative is left to the conditions on the
values. -/
theorem parse_of_natural {n : Nat} (upper : n < Numeral.signedBound) :
    parse (capacityText n) = validate { memory := { userCapacity := n } } := by
  have document : Toml.parse? (capacityText n) = some (capacityDocument n) :=
    parse?_capacityText (by omega) (by omega)
  exact parse_of_read document rfl

theorem parse_of_outside {capacity : Int}
    (outside : ¬ (-Numeral.signedBound ≤ capacity ∧ capacity < Numeral.signedBound)) :
    parse (capacityText capacity) = .error (.malformed none) :=
  parse_of_noDocument (parse?_capacityText_of_outside outside)

theorem validate_of_excessive {n : Nat} (excessive : maxUserCapacity < n) :
    validate { memory := { userCapacity := n } } = .error (.invalid (.excessiveCapacity n)) := by
  obtain ⟨level, format⟩ := defaultLogging_valid
  exact validate_of_faulty (.excessiveCapacity level format excessive)

theorem capacity_of_parse {capacity : Int} {config : Config}
    (accepted : parse (capacityText capacity) = .ok config) :
    config.memory.userCapacity = capacity := by
  by_cases inside : -Numeral.signedBound ≤ capacity ∧ capacity < Numeral.signedBound
  · by_cases negative : capacity < 0
    · rw [parse_of_negative inside.1 negative] at accepted
      contradiction
    · obtain ⟨n, rfl⟩ := Int.eq_ofNat_of_zero_le (Int.not_lt.mp negative)
      rw [parse_of_natural (by omega)] at accepted
      obtain ⟨rfl, _⟩ := validate_eq_ok_iff.mp accepted
      rfl
  · rw [parse_of_outside inside] at accepted
    contradiction

/-! ## Messages -/

theorem cause?_of_negative (capacity : Int) :
    (LoadError.malformed (some (.negativeSize capacity))).cause? =
      some (String.join
        ["invalid value: integer `", toString capacity, "`, expected usize"]) := by
  have shown : String.ofList (Numeral.signed capacity) = toString capacity := by
    rw [← Numeral.toList_repr, String.ofList_toList]
    rfl
  rw [LoadError.cause?, Option.map_some, ReadError.message, shown]

theorem message_of_excessive (n : Nat) :
    (LoadError.invalid (.excessiveCapacity n)).message =
      String.join ["user_capacity (", toString n, ") must not exceed 16777216"] := by
  have shown : shownNat n = toString n := rfl
  have limit : shownNat maxUserCapacity = "16777216" := by decide
  rw [LoadError.message, Fault.message, shown, limit]
  simp [String.join, String.append_assoc]

/-- What becomes of a capacity of any size, and what is told of it when it is refused.  A
capacity that is accepted is the number that is written. -/
theorem outcome_of_capacity (capacity : Int) :
    parse (capacityText capacity) =
        (if capacity < -9223372036854775808 then .error (.malformed none)
        else if capacity < 0 then .error (.malformed (some (.negativeSize capacity)))
        else if capacity = 0 then .error (.invalid .noCapacity)
        else if capacity ≤ 16777216 then
          .ok { memory := { userCapacity := capacity.toNat } }
        else if capacity < 9223372036854775808 then
          .error (.invalid (.excessiveCapacity capacity.toNat))
        else .error (.malformed none)) ∧
      (Toml.parse? (capacityText capacity) = none ↔
        capacity < -9223372036854775808 ∨ 9223372036854775808 ≤ capacity) ∧
      (LoadError.malformed (some (.negativeSize capacity))).cause? =
        some (String.join
          ["invalid value: integer `", toString capacity, "`, expected usize"]) ∧
      (LoadError.invalid .noCapacity).message = "user_capacity must be greater than 0" ∧
      (∀ n : Nat, (LoadError.invalid (.excessiveCapacity n)).message =
        String.join ["user_capacity (", toString n, ") must not exceed 16777216"]) ∧
      ∀ config, parse (capacityText capacity) = .ok config →
        config.memory.userCapacity = capacity := by
  have bound : Numeral.signedBound = 9223372036854775808 := rfl
  have limit : maxUserCapacity = 16777216 := rfl
  refine ⟨?_, ?_, cause?_of_negative capacity, rfl, message_of_excessive, ?_⟩
  · by_cases below : capacity < -9223372036854775808
    · rw [if_pos below, parse_of_outside (by omega)]
    rw [if_neg below]
    by_cases negative : capacity < 0
    · rw [if_pos negative, parse_of_negative (by omega) negative]
    rw [if_neg negative]
    obtain ⟨n, rfl⟩ := Int.eq_ofNat_of_zero_le (Int.not_lt.mp negative)
    by_cases zero : (n : Int) = 0
    · rw [if_pos zero, Int.natCast_eq_zero.mp zero]
      exact parse_of_natural (by omega)
    rw [if_neg zero]
    by_cases allowed : (n : Int) ≤ 16777216
    · rw [if_pos allowed, parse_of_natural (by omega),
        validate_of_defaultLogging (show 0 < n by omega) (show n ≤ maxUserCapacity by omega)]
      rfl
    rw [if_neg allowed]
    by_cases upper : (n : Int) < 9223372036854775808
    · rw [if_pos upper, parse_of_natural (by omega), validate_of_excessive (by omega)]
      rfl
    · rw [if_neg upper, parse_of_outside (by omega)]
  · constructor
    · intro noDocument
      by_contra inside
      rw [parse?_capacityText (by omega) (by omega)] at noDocument
      contradiction
    · intro outside
      exact parse?_capacityText_of_outside (by omega)
  · intro config accepted
    exact capacity_of_parse accepted

/-- The numbers on both sides of the largest capacity and of the largest integer, and the
least integer. -/
theorem outcome_of_capacity_limits :
    let largest : Config := { memory := { userCapacity := 16777216 } }
    parse (capacityText 16777216) = .ok largest ∧
      (largest.memory.userCapacity : Int) = 16777216 ∧
      parse (capacityText 16777217) = .error (.invalid (.excessiveCapacity 16777217)) ∧
      parse (capacityText 9223372036854775807) =
        .error (.invalid (.excessiveCapacity 9223372036854775807)) ∧
      parse (capacityText 9223372036854775808) = .error (.malformed none) ∧
      parse (capacityText (-9223372036854775808)) =
        .error (.malformed (some (.negativeSize (-9223372036854775808)))) := by
  intro largest
  have accepted : parse (capacityText 16777216) = .ok largest :=
    (outcome_of_capacity 16777216).1
  obtain ⟨_, _, _, _, _, same⟩ := outcome_of_capacity 16777216
  exact ⟨accepted, same largest accepted, (outcome_of_capacity 16777217).1,
    (outcome_of_capacity 9223372036854775807).1,
    (outcome_of_capacity 9223372036854775808).1,
    (outcome_of_capacity (-9223372036854775808)).1⟩

end Config

end UserRegistry
