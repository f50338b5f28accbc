import Mathlib.Data.List.Induction
import UserRegistry.Proofs.Associations
import UserRegistry.Toml.Document

/-!
# Tables built from plain keys

Assignments whose keys have one part each, and no two the same, make a table that
holds their values in order.  A header opens such a table behind what is there, and a
header of an array of tables adds such a table behind the elements that are there.
-/

namespace UserRegistry.Toml

/-- The assignments that bind each name to its value. -/
def plainAssignments (entries : Entries) : List (List String × Value) :=
  entries.map fun entry => ([entry.1], entry.2)

/-- The items of a table of values. -/
def Items.ofEntries (entries : Entries) : Items :=
  entries.map fun entry => (entry.1, .value entry.2)

theorem entriesOf_append (items others : Items) :
    entriesOf (items ++ others) = entriesOf items ++ entriesOf others := by
  induction items with
  | nil => rfl
  | cons binding items induction =>
      obtain ⟨name, item⟩ := binding
      rw [List.cons_append, entriesOf, induction, entriesOf, List.cons_append]

theorem entriesOf_ofEntries (entries : Entries) :
    entriesOf (Items.ofEntries entries) = entries := by
  induction entries with
  | nil => rfl
  | cons entry entries induction => exact congrArg (entry :: ·) induction

namespace Items

variable {items : Items} {name : String} {entries : Entries}

/-! ## Assignments -/

theorem lookup_ofEntries_eq_none_iff :
    (ofEntries entries).lookup name = none ↔ name ∉ entries.map Prod.fst := by
  rw [Associations.lookup_eq_none_iff_not_mem, ofEntries, List.map_map]
  rfl

theorem add_of_free (free : items.lookup name = none) (item : Item) :
    add name item items = some (items ++ [(name, item)]) := by
  rw [add, free]
  rfl

theorem assign_singleton (name : String) (value : Value) (items : Items) :
    assign [name] value items = add name (.value value) items :=
  rfl

theorem assignAll_plain (distinct : (entries.map Prod.fst).Nodup) :
    assignAll (plainAssignments entries) [] = some (ofEntries entries) := by
  induction entries using List.reverseRecOn with
  | nil => rfl
  | append_singleton entries entry induction =>
      obtain ⟨name, value⟩ := entry
      rw [List.map_append] at distinct
      obtain ⟨front, _, disjoint⟩ := List.nodup_append.mp distinct
      have free : (ofEntries entries).lookup name = none := by
        rw [lookup_ofEntries_eq_none_iff]
        intro inside
        exact disjoint name inside name (by simp) rfl
      have before := induction front
      rw [assignAll, plainAssignments] at before ⊢
      rw [List.map_append, List.foldlM_append, before, Option.bind_eq_bind,
        Option.bind_some]
      simp only [List.map_cons, List.map_nil, List.foldlM_cons, List.foldlM_nil,
        assign_singleton, add_of_free free]
      simp [ofEntries]

/-! ## Arrays of tables -/

/-- Items with an array of tables behind them, unless it has no elements. -/
def withElements (items : Items) (name : String) (elements : List Items) : Items :=
  if elements.isEmpty then items else items ++ [(name, .tables elements)]

theorem withElements_concat (items : Items) (name : String) (elements : List Items)
    (last : Items) :
    items.withElements name (elements ++ [last]) =
      items ++ [(name, .tables (elements ++ [last]))] := by
  simp [withElements]

theorem lookup_concat (free : items.lookup name = none) (item : Item) :
    (items ++ [(name, item)]).lookup name = some item := by
  rw [List.lookup_append, free]
  simp

theorem replace_concat (free : items.lookup name = none) (old new : Item) :
    replace name new (items ++ [(name, old)]) = items ++ [(name, new)] := by
  have unchanged : items.map (fun binding =>
      if binding.1 = name then (name, new) else binding) = items := by
    rw [Associations.lookup_eq_none_iff_not_mem] at free
    refine (List.map_congr_left fun binding inside => if_neg ?_).trans (List.map_id items)
    rintro rfl
    exact free (List.mem_map_of_mem inside)
  rw [replace, List.map_append, unchanged]
  simp

end Items

namespace Section

variable {items : Items} {name : String} {entries : Entries}

/-! ## Sections -/

/-- The section of a header with assignments of one part each. -/
def ofEntries (header : Header) (entries : Entries) : Section :=
  ⟨header, plainAssignments entries⟩

theorem build_table (free : items.lookup name = none)
    (distinct : (entries.map Prod.fst).Nodup) :
    build items (ofEntries (.table [name]) entries) =
      some (items ++ [(name, .table .header (Items.ofEntries entries))]) := by
  have opened : build items (ofEntries (.table [name]) entries) =
      Items.openTable name (Items.assignAll (plainAssignments entries)) items := rfl
  rw [opened, Items.openTable, free]
  simp only [Items.assignAll_plain distinct]
  rfl

theorem build_element (free : items.lookup name = none)
    (distinct : (entries.map Prod.fst).Nodup) (elements : List Items) :
    build (items.withElements name elements) (ofEntries (.element [name]) entries) =
      some (items.withElements name (elements ++ [Items.ofEntries entries])) := by
  have opened : build (items.withElements name elements)
        (ofEntries (.element [name]) entries) =
      Items.openElement name (Items.assignAll (plainAssignments entries))
        (items.withElements name elements) := rfl
  rw [opened, Items.openElement, Items.assignAll_plain distinct,
    Items.withElements_concat]
  rcases List.eq_nil_or_concat' elements with rfl | ⟨front, last, rfl⟩
  · simp [Items.withElements, free]
  · rw [Items.withElements_concat]
    simp [Items.lookup_concat free, Items.replace_concat free]

/-- A table inside the last element of an array of tables. -/
theorem build_tableInElement {last : Items} {inner : String}
    (free : items.lookup name = none) (innerFree : last.lookup inner = none)
    (distinct : (entries.map Prod.fst).Nodup) (elements : List Items) :
    build (items.withElements name (elements ++ [last]))
        (ofEntries (.table [name, inner]) entries) =
      some (items.withElements name
        (elements ++ [last ++ [(inner, .table .header (Items.ofEntries entries))]])) := by
  have opened : build (items.withElements name (elements ++ [last]))
        (ofEntries (.table [name, inner]) entries) =
      Items.within .headerPath
        (fun _ items => Items.openTable inner (Items.assignAll (plainAssignments entries)) items)
        .header [name] (items.withElements name (elements ++ [last])) := rfl
  rw [opened, Items.withElements_concat, Items.withElements_concat, Items.within,
    Items.lookup_concat free]
  simp [Items.within, Items.openTable, innerFree, Items.assignAll_plain distinct,
    Items.replace_concat free]

end Section

end UserRegistry.Toml
