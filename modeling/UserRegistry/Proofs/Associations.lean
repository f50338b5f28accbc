import Mathlib.Data.List.Nodup

/-!
# Lists of keyed entries

The library's tables and its local users are lists of pairs in which a lookup takes
the first entry that fits.  What a lookup finds is told here for all of them, once
as a fact about lookups and once, while no key repeats, as a fact about membership.
-/

namespace UserRegistry

namespace Associations

variable {Key Value : Type} [DecidableEq Key] {entries : List (Key × Value)}
  {key : Key} {value : Value}

theorem lookup_cons_eq_ite (key present : Key) (value : Value)
    (entries : List (Key × Value)) :
    List.lookup key ((present, value) :: entries) =
      if key = present then some value else List.lookup key entries := by
  rw [List.lookup_cons]
  by_cases same : key = present
  · simp [same]
  · rw [if_neg same, beq_eq_false_iff_ne.mpr same]

theorem lookup_eq_none_iff_not_mem :
    entries.lookup key = none ↔ key ∉ entries.map Prod.fst := by
  simp only [List.lookup_eq_none_iff, List.mem_map, not_exists, not_and, bne_iff_ne]
  constructor
  · intro absent entry member same
    exact absent entry member same.symm
  · intro absent entry member same
    exact absent entry member same.symm

theorem mem_of_lookup (found : entries.lookup key = some value) :
    (key, value) ∈ entries := by
  obtain ⟨before, after, equality, _⟩ := List.lookup_eq_some_iff.mp found
  rw [equality]
  simp

/-- Once no key repeats, the first entry that fits is the only one. -/
theorem lookup_eq_some_iff_mem (distinct : (entries.map Prod.fst).Nodup) :
    entries.lookup key = some value ↔ (key, value) ∈ entries := by
  constructor
  · exact mem_of_lookup
  · intro member
    obtain ⟨before, after, equality⟩ := List.append_of_mem member
    refine List.lookup_eq_some_iff.mpr ⟨before, after, equality, ?_⟩
    intro entry earlier
    rw [equality, List.map_append, List.map_cons] at distinct
    have different : entry.1 ≠ key :=
      List.nodup_append.mp distinct |>.2.2 entry.1 (List.mem_map_of_mem earlier)
        key List.mem_cons_self
    exact bne_iff_ne.mpr different.symm

/-- Once no key repeats, the first entry that fits is the last one, too. -/
theorem lookup_reverse (distinct : (entries.map Prod.fst).Nodup) (key : Key) :
    entries.reverse.lookup key = entries.lookup key := by
  have reversed : (entries.reverse.map Prod.fst).Nodup := by
    rwa [List.map_reverse, List.nodup_reverse]
  apply Option.ext
  intro value
  rw [lookup_eq_some_iff_mem reversed, lookup_eq_some_iff_mem distinct,
    List.mem_reverse]

/-- Lists that have the same keys in the same order find what they relate. -/
theorem rel_lookup {Other : Type} {related : Value → Other → Prop}
    {others : List (Key × Other)}
    (alike : List.Forall₂ (fun entry other => entry.1 = other.1 ∧ related entry.2 other.2)
      entries others) (key : Key) :
    Option.Rel related (entries.lookup key) (others.lookup key) := by
  induction alike with
  | nil => exact .none
  | @cons entry other _ _ head _ induction =>
      obtain ⟨present, value⟩ := entry
      obtain ⟨rfl, values⟩ := head
      rw [lookup_cons_eq_ite, lookup_cons_eq_ite]
      split
      · exact .some values
      · exact induction

theorem lookup_filter_ne (removed key : Key) (entries : List (Key × Value)) :
    (entries.filter fun entry => entry.1 ≠ removed).lookup key =
      if key = removed then none else entries.lookup key := by
  induction entries with
  | nil => simp
  | cons entry entries induction =>
      obtain ⟨present, value⟩ := entry
      rw [lookup_cons_eq_ite]
      by_cases gone : present = removed
      · subst present
        rw [List.filter_cons_of_neg (by simp), induction]
        by_cases same : key = removed
        · simp [same]
        · simp [same]
      · rw [List.filter_cons_of_pos (by simpa using gone), lookup_cons_eq_ite,
          induction]
        by_cases here : key = present
        · simp [here, gone]
        · simp [here]

end Associations

end UserRegistry
