import Mathlib.Data.List.Perm.Basic

/-!
# Outcomes

A computation gives a result or fails for a cause.  A chain fails at the first of its
links that does, and so does a list whose items are read in turn: for the first item at
fault, whatever stands behind it.  Two computations concur if both fail or both give the
same, and what is built from parts that concur does so too.
-/

namespace UserRegistry

theorem bind_eq_ok_iff {Failure First Last : Type}
    {first : Except Failure First} {next : First → Except Failure Last}
    {last : Last} :
    (first >>= next) = .ok last ↔
      ∃ value, first = .ok value ∧ next value = .ok last := by
  cases first with
  | error failure =>
      constructor
      · intro impossible
        contradiction
      · rintro ⟨value, impossible, _⟩
        contradiction
  | ok value =>
      constructor
      · intro result
        exact ⟨value, rfl, result⟩
      · rintro ⟨same, equality, result⟩
        cases equality
        exact result

theorem map_eq_ok_iff {Failure First Last : Type} {first : Except Failure First}
    {next : First → Last} {last : Last} :
    first.map next = .ok last ↔ ∃ value, first = .ok value ∧ next value = last := by
  cases first with
  | error failure =>
      constructor
      · intro impossible
        contradiction
      · rintro ⟨value, impossible, _⟩
        contradiction
  | ok value =>
      constructor
      · intro result
        exact ⟨value, rfl, Except.ok.inj result⟩
      · rintro ⟨same, equality, result⟩
        cases equality
        exact congrArg Except.ok result

/-- What is only changed afterwards fails as it is. -/
theorem map_eq_error_iff {Failure First Last : Type} {first : Except Failure First}
    {next : First → Last} {failure : Failure} :
    first.map next = .error failure ↔ first = .error failure := by
  cases first <;> simp [Except.map]

theorem bind_eq_error_iff {Failure First Last : Type} {first : Except Failure First}
    {next : First → Except Failure Last} {failure : Failure} :
    (first >>= next) = .error failure ↔
      first = .error failure ∨ ∃ value, first = .ok value ∧ next value = .error failure := by
  cases first with
  | error cause =>
      constructor
      · intro result
        cases result
        exact .inl rfl
      · rintro (failed | ⟨value, impossible, _⟩)
        · cases failed
          rfl
        · contradiction
  | ok value =>
      constructor
      · intro result
        exact .inr ⟨value, rfl, result⟩
      · rintro (impossible | ⟨same, equality, failed⟩)
        · contradiction
        · cases equality
          exact failed

/-- What is only put somewhere does not fail. -/
theorem bind_ok_eq_error_iff {Failure First Last : Type} {first : Except Failure First}
    {put : First → Last} {failure : Failure} :
    (first >>= fun value => .ok (put value)) = .error failure ↔ first = .error failure := by
  rw [bind_eq_error_iff]
  simp

theorem mapM_eq_ok_iff {Failure First Last : Type} {read : First → Except Failure Last}
    {items : List First} {results : List Last} :
    items.mapM read = .ok results ↔
      List.Forall₂ (fun item found => read item = .ok found) items results := by
  induction items generalizing results with
  | nil =>
      constructor
      · intro result
        cases result
        exact .nil
      · intro related
        cases related
        rfl
  | cons item items induction =>
      rw [List.mapM_cons]
      constructor
      · intro result
        obtain ⟨first, head, rest⟩ := bind_eq_ok_iff.mp result
        obtain ⟨others, tail, equality⟩ := bind_eq_ok_iff.mp rest
        cases equality
        exact .cons head (induction.mp tail)
      · intro related
        cases related with
        | cons head tail =>
            exact bind_eq_ok_iff.mpr
              ⟨_, head, bind_eq_ok_iff.mpr ⟨_, induction.mpr tail, rfl⟩⟩

/-- A list whose items are in another order gives the same results in another order. -/
theorem mapM_perm {Failure First Last : Type} {read : First → Except Failure Last}
    {items permuted : List First} {results : List Last} (same : items.Perm permuted)
    (result : items.mapM read = .ok results) :
    ∃ others, permuted.mapM read = .ok others ∧ others.Perm results := by
  obtain ⟨others, related, sameResults⟩ :=
    List.perm_comp_forall₂ same.symm (mapM_eq_ok_iff.mp result)
  exact ⟨others, mapM_eq_ok_iff.mpr related, sameResults⟩

/-! ## The first item at fault -/

/-- The first item at fault is so for a cause.  Nothing is asked of the items behind it. -/
def FirstFault {Failure Item : Type} (fault : Failure → Item → Prop) (cause : Failure)
    (items : List Item) : Prop :=
  ∃ before item after, items = before ++ item :: after ∧
    (∀ earlier ∈ before, ∀ other, ¬ fault other earlier) ∧ fault cause item

section FirstFault

variable {Failure Item : Type} {fault : Failure → Item → Prop} {cause : Failure}
  {items : List Item}

theorem not_firstFault_nil : ¬ FirstFault fault cause [] := by
  intro first
  obtain ⟨before, item, after, split, _⟩ := first
  simp at split

theorem firstFault_cons_iff {item : Item} :
    FirstFault fault cause (item :: items) ↔
      fault cause item ∨ (∀ other, ¬ fault other item) ∧ FirstFault fault cause items := by
  constructor
  · intro first
    obtain ⟨before, present, after, split, readable, faulty⟩ := first
    cases before with
    | nil =>
        cases split
        exact .inl faulty
    | cons earlier before =>
        cases split
        rw [List.forall_mem_cons] at readable
        exact .inr ⟨readable.1, before, present, after, rfl, readable.2, faulty⟩
  · intro cases
    rcases cases with faulty | ⟨readable, before, present, after, rfl, earlier, faulty⟩
    · exact ⟨[], item, items, rfl, by simp, faulty⟩
    · exact ⟨item :: before, present, after, rfl,
        List.forall_mem_cons.mpr ⟨readable, earlier⟩, faulty⟩

theorem exists_firstFault_iff :
    (∃ cause, FirstFault fault cause items) ↔ ∃ item ∈ items, ∃ cause, fault cause item := by
  induction items with
  | nil => simp [not_firstFault_nil]
  | cons item items induction =>
      simp only [firstFault_cons_iff, exists_or, exists_and_left, induction,
        List.exists_mem_cons_iff, ← not_exists]
      by_cases faulty : ∃ cause, fault cause item
      · simp [faulty]
      · simp [faulty]

/-- A list whose items are read in turn is refused for the first that is. -/
theorem mapM_eq_error_iff {Last : Type} {read : Item → Except Failure Last} :
    items.mapM read = .error cause ↔
      FirstFault (fun cause item => read item = .error cause) cause items := by
  induction items with
  | nil => simp [not_firstFault_nil, pure, Except.pure]
  | cons item items induction =>
      rw [List.mapM_cons, firstFault_cons_iff, ← induction]
      cases read item with
      | error failure => simp [bind, Except.bind]
      | ok found =>
          cases items.mapM read with
          | error failure => simp [bind, Except.bind]
          | ok others => simp [bind, Except.bind, pure, Except.pure]

end FirstFault

theorem mapM_fails_iff {Failure First Last : Type} {read : First → Except Failure Last}
    {items : List First} :
    (∃ cause, items.mapM read = .error cause) ↔
      ∃ item ∈ items, ∃ cause, read item = .error cause := by
  simp only [mapM_eq_error_iff]
  exact exists_firstFault_iff

theorem exists_mapM_eq_ok {Failure First Last : Type} {read : First → Except Failure Last}
    {items : List First} (readable : ∀ item ∈ items, ∃ found, read item = .ok found) :
    ∃ results, items.mapM read = .ok results := by
  cases outcome : items.mapM read with
  | ok results => exact ⟨results, rfl⟩
  | error cause =>
      obtain ⟨item, inside, refusal, refused⟩ := mapM_fails_iff.mp ⟨cause, outcome⟩
      obtain ⟨found, read⟩ := readable item inside
      rw [read] at refused
      contradiction

/-! ## Computations that concur -/

/-- Two computations both fail, or both give the same. -/
def Concur {Failure Last : Type} (first second : Except Failure Last) : Prop :=
  ∀ last, first = .ok last ↔ second = .ok last

namespace Concur

variable {Failure First Last : Type}

theorem refl (first : Except Failure First) : Concur first first :=
  fun _ => Iff.rfl

theorem trans {first second third : Except Failure First} (earlier : Concur first second)
    (later : Concur second third) : Concur first third :=
  fun last => (earlier last).trans (later last)

theorem of_failures (cause other : Failure) :
    Concur (.error cause : Except Failure First) (.error other) := by
  intro last
  simp

theorem bind {first second : Except Failure First}
    {next other : First → Except Failure Last} (start : Concur first second)
    (rest : ∀ value, Concur (next value) (other value)) :
    Concur (first >>= next) (second >>= other) := by
  intro last
  rw [bind_eq_ok_iff, bind_eq_ok_iff]
  apply exists_congr
  intro value
  exact and_congr (start value) (rest value last)

theorem map {first second : Except Failure First} (start : Concur first second)
    (next : First → Last) : Concur (first.map next) (second.map next) := by
  intro last
  rw [map_eq_ok_iff, map_eq_ok_iff]
  apply exists_congr
  intro value
  exact and_congr_left' (start value)

theorem mapM {Other : Type} {read : First → Except Failure Last}
    {readOther : Other → Except Failure Last} {items : List First} {others : List Other}
    (each : List.Forall₂ (fun item other => Concur (read item) (readOther other))
      items others) : Concur (items.mapM read) (others.mapM readOther) := by
  induction each with
  | nil => exact refl _
  | cons head _ induction =>
      rw [List.mapM_cons, List.mapM_cons]
      apply head.bind
      intro first
      apply induction.bind
      intro rest
      exact refl _

theorem fails_iff {first second : Except Failure First} (alike : Concur first second) :
    (∃ cause, first = .error cause) ↔ ∃ cause, second = .error cause := by
  cases first with
  | ok value => rw [(alike value).mp rfl]
  | error cause =>
      cases second with
      | error other => simp
      | ok value =>
          have impossible := (alike value).mpr rfl
          contradiction

end Concur

/-! ## Translated failures -/

section MapError

variable {Failure Other First Last : Type} (translate : Failure → Other)

theorem mapError_bind (first : Except Failure First) (next : First → Except Failure Last) :
    (first >>= next).mapError translate =
      first.mapError translate >>= fun value => (next value).mapError translate := by
  cases first with
  | error failure => rfl
  | ok value => rfl

theorem mapError_map (first : Except Failure First) (next : First → Last) :
    (first.map next).mapError translate = (first.mapError translate).map next := by
  cases first with
  | error failure => rfl
  | ok value => rfl

theorem mapError_mapM (read : First → Except Failure Last) (items : List First) :
    (items.mapM read).mapError translate =
      items.mapM fun item => (read item).mapError translate := by
  induction items with
  | nil => rfl
  | cons item items induction =>
      rw [List.mapM_cons, List.mapM_cons, mapError_bind]
      congr 1
      funext first
      rw [mapError_bind, induction]
      rfl

end MapError

end UserRegistry
