import Mathlib.Data.List.Induction
import Mathlib.Data.List.Nodup
import UserRegistry.User

/-!
# Roles of users

Adding roles one by one keeps the first occurrence of each.  Hence the roles of a
user that a source makes never repeat, whatever list they are given as.
-/

namespace UserRegistry

namespace Roles

theorem nodup_add {roles : List String} (distinct : roles.Nodup)
    (role : String) : (add roles role).Nodup := by
  unfold add
  by_cases present : role ∈ roles
  · rw [if_pos present]
    exact distinct
  · rw [if_neg present]
    simpa using distinct.concat present

theorem ofList_concat (roles : List String) (role : String) :
    ofList (roles ++ [role]) = add (ofList roles) role := by
  rw [ofList, List.foldl_concat, ofList]

/-- The added roles that were not there go behind those that were, each where it is
first added. -/
theorem foldl_add (roles added : List String) :
    added.foldl add roles =
      roles ++ added.eraseDups.filter fun role => role ∉ roles := by
  induction added using List.reverseRecOn with
  | nil => simp
  | append_singleton added role induction =>
      rw [List.foldl_concat, induction, List.eraseDups_append, add]
      by_cases present : role ∈ roles
      · by_cases again : role ∈ added
        · simp [present, again, List.removeAll]
        · simp [present, again, List.removeAll, List.eraseDups_cons]
      · by_cases again : role ∈ added
        · simp [present, again, List.removeAll]
        · simp [present, again, List.removeAll, List.eraseDups_cons]

theorem ofList_eq_eraseDups (roles : List String) :
    ofList roles = roles.eraseDups := by
  rw [ofList, foldl_add]
  simp

theorem nodup_ofList (roles : List String) : (ofList roles).Nodup := by
  induction roles using List.reverseRecOn with
  | nil => exact List.nodup_nil
  | append_singleton roles role induction =>
      rw [ofList_concat]
      exact nodup_add induction role

theorem mem_ofList_iff {roles : List String} {role : String} :
    role ∈ ofList roles ↔ role ∈ roles := by
  rw [ofList_eq_eraseDups, List.mem_eraseDups]

/-- Roles are left out and never moved. -/
theorem ofList_sublist (roles : List String) : (ofList roles).Sublist roles := by
  induction roles using List.reverseRecOn with
  | nil => exact .slnil
  | append_singleton roles role induction =>
      rw [ofList_concat, add]
      split
      · exact induction.trans (List.sublist_append_left roles [role])
      · exact induction.append (.refl [role])

theorem pairwise_idxOf_ofList (roles : List String) :
    (ofList roles).Pairwise fun earlier later =>
      roles.idxOf earlier < roles.idxOf later := by
  induction roles using List.reverseRecOn with
  | nil => exact .nil
  | append_singleton roles role induction =>
      have place {kept : String} (inside : kept ∈ ofList roles) :
          (roles ++ [role]).idxOf kept = roles.idxOf kept :=
        List.idxOf_append_of_mem (mem_ofList_iff.mp inside)
      have kept : (ofList roles).Pairwise fun earlier later =>
          (roles ++ [role]).idxOf earlier < (roles ++ [role]).idxOf later := by
        refine induction.imp_of_mem ?_
        intro earlier later earlierKept laterKept before
        rwa [place earlierKept, place laterKept]
      rw [ofList_concat, add]
      split
      · exact kept
      · rename_i new
        refine List.pairwise_append.mpr ⟨kept, List.pairwise_singleton _ _, ?_⟩
        intro earlier inside last isRole
        cases List.mem_singleton.mp isRole
        have absent : role ∉ roles := fun given => new (mem_ofList_iff.mpr given)
        rw [place inside, List.idxOf_append_of_notMem absent]
        exact Nat.lt_add_right _ (List.idxOf_lt_length_of_mem (mem_ofList_iff.mp inside))

end Roles

end UserRegistry
