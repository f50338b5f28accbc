import Mathlib.Data.List.Induction
import Mathlib.Data.List.Lex
import UserRegistry.Json
import UserRegistry.Proofs.Associations

/-!
# Members in key order

Members whose keys increase are the canonical form of a map from keys to values.
Binding a key keeps them in that form.  Binding canonical members one after the
other, starting from nothing, gives them back as they are: each key goes behind all
that are already bound.  Members that bind each key once are only rearranged.
-/

namespace UserRegistry

namespace Text

theorem bytes_injective : Function.Injective bytes := by
  intro left right equality
  have sameArray : left.toByteArray.data = right.toByteArray.data :=
    Array.toList_inj.mp equality
  exact String.toByteArray_inj.mp (ByteArray.ext sameArray)

theorem precedes_iff {left right : String} :
    precedes left right = true ↔ bytes left < bytes right :=
  decide_eq_true_iff

theorem precedes_trans {first second third : String}
    (earlier : precedes first second = true)
    (later : precedes second third = true) : precedes first third = true := by
  rw [precedes_iff] at earlier later ⊢
  exact List.lt_trans earlier later

theorem precedes_asymm {left right : String}
    (before : precedes left right = true) : ¬ precedes right left = true := by
  rw [precedes_iff] at before ⊢
  exact List.lt_asymm before

theorem ne_of_precedes {left right : String}
    (before : precedes left right = true) : left ≠ right := by
  rintro rfl
  exact precedes_asymm before before

theorem precedes_of_ne {left right : String} (different : left ≠ right)
    (notAfter : ¬ precedes right left = true) : precedes left right = true := by
  rw [precedes_iff] at notAfter ⊢
  by_contra notBefore
  exact different (bytes_injective (List.le_antisymm notAfter notBefore))

end Text

namespace Json.Members

/-! ## Binding a key -/

theorem eq_or_mem_of_mem_insert {key : String} {value : Json}
    {members : Members} {member : String × Json}
    (inside : member ∈ insert key value members) :
    member = (key, value) ∨ member ∈ members := by
  induction members with
  | nil => exact .inl (List.mem_singleton.mp inside)
  | cons head members induction =>
      obtain ⟨present, held⟩ := head
      rw [insert] at inside
      split at inside
      · exact List.mem_cons.mp inside
      · split at inside
        · rcases List.mem_cons.mp inside with new | old
          · exact .inl new
          · exact .inr (List.mem_cons_of_mem _ old)
        · rcases List.mem_cons.mp inside with first | rest
          · exact .inr (first ▸ List.mem_cons_self)
          · exact (induction rest).imp_right (List.mem_cons_of_mem _)

theorem ordered_insert {members : Members} (ordered : members.Ordered)
    (key : String) (value : Json) : (insert key value members).Ordered := by
  induction members with
  | nil => exact List.pairwise_singleton _ _
  | cons head members induction =>
      obtain ⟨present, held⟩ := head
      obtain ⟨headFirst, rest⟩ := List.pairwise_cons.mp ordered
      rw [insert]
      by_cases before : Text.precedes key present = true
      · rw [if_pos before]
        refine List.pairwise_cons.mpr ⟨?_, ordered⟩
        intro member inside
        rcases List.mem_cons.mp inside with rfl | later
        · exact before
        · exact Text.precedes_trans before (headFirst member later)
      · rw [if_neg before]
        by_cases same : key = present
        · rw [if_pos same]
          exact List.pairwise_cons.mpr ⟨same ▸ headFirst, rest⟩
        · rw [if_neg same]
          refine List.pairwise_cons.mpr ⟨?_, induction rest⟩
          intro member inside
          rcases eq_or_mem_of_mem_insert inside with rfl | old
          · exact Text.precedes_of_ne (Ne.symm same) before
          · exact headFirst member old

theorem insert_of_all_precede {members : Members} {key : String} (value : Json)
    (earlier : ∀ member ∈ members, Text.precedes member.1 key = true) :
    insert key value members = members ++ [(key, value)] := by
  induction members with
  | nil => rfl
  | cons member members induction =>
      obtain ⟨present, held⟩ := member
      have before : Text.precedes present key = true :=
        earlier (present, held) List.mem_cons_self
      have later : ∀ member ∈ members, Text.precedes member.1 key = true :=
        fun member inside => earlier member (List.mem_cons_of_mem _ inside)
      rw [insert, if_neg (Text.precedes_asymm before),
        if_neg (Text.ne_of_precedes before).symm, induction later,
        List.cons_append]

theorem Ordered.distinct {members : Members} (ordered : members.Ordered) :
    (members.map Prod.fst).Nodup :=
  List.pairwise_map.mpr (ordered.imp Text.ne_of_precedes)

/-- Binding a key changes what is found under it and nothing else, in whatever order
the members stand. -/
theorem get?_insert (key : String) (value : Json) (members : Members)
    (sought : String) :
    get? sought (insert key value members) =
      if sought = key then some value else get? sought members := by
  unfold get?
  induction members with
  | nil => rw [insert, Associations.lookup_cons_eq_ite]
  | cons head members induction =>
      obtain ⟨present, held⟩ := head
      rw [insert]
      by_cases before : Text.precedes key present = true
      · rw [if_pos before, Associations.lookup_cons_eq_ite]
      · rw [if_neg before]
        by_cases same : key = present
        · subst present
          rw [if_pos rfl, Associations.lookup_cons_eq_ite,
            Associations.lookup_cons_eq_ite]
          split <;> rfl
        · rw [if_neg same, Associations.lookup_cons_eq_ite,
            Associations.lookup_cons_eq_ite, induction]
          by_cases here : sought = present
          · subst present
            rw [if_pos rfl, if_pos rfl, if_neg (Ne.symm same)]
          · rw [if_neg here, if_neg here]

/-! ## Removing a key -/

theorem Ordered.erase {members : Members} (ordered : members.Ordered) (key : String) :
    (Members.erase key members).Ordered :=
  List.Pairwise.filter _ ordered

theorem get?_erase (key : String) (members : Members) (sought : String) :
    get? sought (erase key members) = if sought = key then none else get? sought members :=
  Associations.lookup_filter_ne key sought members

/-! ## Members as a map -/

/-- Members that bind each key once are determined, but for their order, by what is found
under each key. -/
theorem perm_of_get?_eq {members others : Members} (distinct : (members.map Prod.fst).Nodup)
    (otherDistinct : (others.map Prod.fst).Nodup)
    (same : ∀ key, get? key members = get? key others) : members.Perm others := by
  refine (List.perm_ext_iff_of_nodup distinct.of_map otherDistinct.of_map).mpr ?_
  rintro ⟨key, value⟩
  have found := same key
  unfold get? at found
  rw [← Associations.lookup_eq_some_iff_mem distinct, found,
    Associations.lookup_eq_some_iff_mem otherDistinct]

/-! ## Binding many keys -/

theorem ofEntries_concat (entries : Members) (entry : String × Json) :
    ofEntries (entries ++ [entry]) =
      insert entry.1 entry.2 (ofEntries entries) := by
  rw [ofEntries, insertAll, List.foldl_append]
  rfl

theorem ordered_ofEntries (entries : Members) : (ofEntries entries).Ordered := by
  induction entries using List.reverseRecOn with
  | nil => exact List.Pairwise.nil
  | append_singleton entries entry induction =>
      rw [ofEntries_concat]
      exact ordered_insert induction entry.1 entry.2

theorem ofEntries_of_ordered {members : Members} (ordered : members.Ordered) :
    ofEntries members = members := by
  induction members using List.reverseRecOn with
  | nil => rfl
  | append_singleton members member induction =>
      obtain ⟨front, _, earlier⟩ := List.pairwise_append.mp ordered
      rw [ofEntries_concat, induction front]
      apply insert_of_all_precede
      intro present inside
      exact earlier present inside member (List.mem_singleton_self member)

theorem mem_of_mem_ofEntries {members : Members} {member : String × Json}
    (inside : member ∈ ofEntries members) : member ∈ members := by
  induction members using List.reverseRecOn with
  | nil => exact inside
  | append_singleton members last induction =>
      rw [ofEntries_concat] at inside
      rcases eq_or_mem_of_mem_insert inside with new | old
      · exact new ▸ List.mem_append_right members (List.mem_singleton_self last)
      · exact List.mem_append_left _ (induction old)

theorem get?_ofEntries (entries : Members) (key : String) :
    get? key (ofEntries entries) = entries.reverse.lookup key := by
  induction entries using List.reverseRecOn with
  | nil => rfl
  | append_singleton entries entry induction =>
      rw [ofEntries_concat, get?_insert, induction, List.reverse_concat,
        Associations.lookup_cons_eq_ite]

theorem get?_ofEntries_of_distinct {entries : Members}
    (distinct : (entries.map Prod.fst).Nodup) (key : String) :
    get? key (ofEntries entries) = get? key entries := by
  rw [get?_ofEntries, Associations.lookup_reverse distinct, get?]

theorem ofEntries_perm {entries : Members} (distinct : (entries.map Prod.fst).Nodup) :
    (ofEntries entries).Perm entries := by
  have ordered := (ordered_ofEntries entries).distinct
  exact perm_of_get?_eq ordered distinct (get?_ofEntries_of_distinct distinct)

theorem Ordered.eq_of_perm {members others : Members} (ordered : members.Ordered)
    (otherOrdered : others.Ordered) (same : members.Perm others) : members = others := by
  apply same.eq_of_pairwise _ ordered otherOrdered
  intro member other _ _ before after
  exact absurd after (Text.precedes_asymm before)

/-- Members in key order are the map of what is found under each key. -/
theorem Ordered.eq_of_get?_eq {members others : Members} (ordered : members.Ordered)
    (otherOrdered : others.Ordered) (same : ∀ key, get? key members = get? key others) :
    members = others :=
  ordered.eq_of_perm otherOrdered
    (perm_of_get?_eq ordered.distinct otherOrdered.distinct same)

/-- Entries that bind each key once may be bound in any order. -/
theorem ofEntries_eq_of_perm {entries permuted : Members} (same : entries.Perm permuted)
    (distinct : (entries.map Prod.fst).Nodup) : ofEntries entries = ofEntries permuted := by
  apply (ordered_ofEntries entries).eq_of_perm (ordered_ofEntries permuted)
  have permutedDistinct := (same.map Prod.fst).nodup_iff.mp distinct
  exact (ofEntries_perm distinct).trans (same.trans (ofEntries_perm permutedDistinct).symm)

end Json.Members

end UserRegistry
