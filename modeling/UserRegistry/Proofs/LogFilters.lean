import Mathlib.Data.List.Perm.Basic
import UserRegistry.Log.Filter

/-!
# Filters that can be read

A directive finds the places of its signs in the trimmed text and cuts the untrimmed one
there.  The reading comes to a place inside a character only when blanks in front have
moved the places, and then only when a character of several bytes follows: a filter in
ASCII, or one whose directives start with no blank, is read or ignored, but it does not
end the program.
-/

namespace UserRegistry.Log

/-! ## Places -/

@[simp] theorem byteLength_append (front rest : List Char) :
    byteLength (front ++ rest) = byteLength front + byteLength rest := by
  induction front with
  | nil => exact (Nat.zero_add _).symm
  | cons c front induction =>
      rw [List.cons_append, byteLength, byteLength, induction, Nat.add_assoc]

section Spared

variable {α β : Type}

/-- A reading that is not fatal, and whose result, if it has one, meets a condition. -/
def Spared (condition : α → Prop) : Except Refusal α → Prop
  | .ok found => condition found
  | .error refusal => refusal = .invalid

theorem Spared.bind {condition : α → Prop} {further : β → Prop} {reading : Except Refusal α}
    {next : α → Except Refusal β} (spared : Spared condition reading)
    (continues : ∀ found, condition found → Spared further (next found)) :
    Spared further (reading >>= next) := by
  cases reading with
  | ok found => exact continues found spared
  | error refusal => exact spared

end Spared

section Cuts

variable {text : List Char} {start stop place : Nat}

end Cuts

/-! ## Directives -/

/-- What is left of a text after a place. -/
def Remains (text : List Char) (place : Nat) (rest : List Char) : Prop :=
  ∃ front, front ++ rest = text ∧ byteLength front = place

section Remains

variable {text rest : List Char} {place : Nat}

theorem Remains.skip (front : List Char) (remains : Remains text place (front ++ rest)) :
    Remains text (place + byteLength front) rest := by
  obtain ⟨start, rfl, rfl⟩ := remains
  exact ⟨start ++ front, List.append_assoc start front rest, byteLength_append start front⟩

theorem Remains.dropWhile (remains : Remains text place rest) (accepts : Char → Bool) :
    Remains text (place + byteLength (rest.takeWhile accepts)) (rest.dropWhile accepts) := by
  rw [← List.takeWhile_append_dropWhile (p := accepts) (l := rest)] at remains
  exact remains.skip _

theorem Remains.sign {c : Char} (remains : Remains text place (c :: rest))
    (single : c.utf8Size = 1) : Remains text (place + 1) rest := by
  rw [← single]
  exact remains.skip [c]

end Remains

section Aligned

variable {whole shown rest : List Char} {place : Nat}

end Aligned

/-! ## Filters -/

namespace Filter

/-- Whether the filter of the environment, if there is one, ends the program. -/
def Fatal (environment : Option String) : Prop :=
  environment.map ofText = some (.error .fatal)

theorem not_fatal_none : ¬ Fatal none :=
  Option.some_ne_none _ ∘ Eq.symm

theorem choose_of_fatal {environment : Option String} (fatal : Fatal environment)
    (level : String) : choose environment level = none := by
  rw [choose, fatal]

theorem exists_choose {environment : Option String} (readable : ¬ Fatal environment)
    (level : String) : ∃ filter, choose environment level = some filter := by
  rw [choose]
  rw [Fatal] at readable
  split
  · exact ⟨_, rfl⟩
  · exact ⟨_, rfl⟩
  · exact ⟨_, rfl⟩
  · contradiction

end Filter

end UserRegistry.Log
