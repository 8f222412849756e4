import Mathlib.Data.List.Basic
import Mathlib.Data.List.Induction

/-!
# First occurrences

The distinct entries of a list stand in the order of their first occurrences. What follows a list
can only add entries behind those of the list, so an entry keeps the place that it got first.
-/

namespace StackSampler

variable {α : Type} [BEq α] [LawfulBEq α] {front : List α} {entry : α}

theorem eraseDups_concat_of_mem (seen : entry ∈ front) :
    (front ++ [entry]).eraseDups = front.eraseDups := by
  rw [List.eraseDups_append]
  simp [List.removeAll, seen]

theorem eraseDups_concat_of_not_mem (new : entry ∉ front) :
    (front ++ [entry]).eraseDups = front.eraseDups ++ [entry] := by
  rw [List.eraseDups_append]
  simp [List.removeAll, new, List.eraseDups_cons]

theorem eraseDups_prefix_append (front back : List α) :
    front.eraseDups <+: (front ++ back).eraseDups := by
  rw [List.eraseDups_append]
  exact List.prefix_append _ _

theorem idxOf_eraseDups_append (seen : entry ∈ front) (back : List α) :
    (front ++ back).eraseDups.idxOf entry = front.eraseDups.idxOf entry := by
  rw [List.eraseDups_append]
  exact List.idxOf_append_of_mem (List.mem_eraseDups.mpr seen)

theorem nodup_eraseDups (entries : List α) : entries.eraseDups.Nodup := by
  induction entries using List.reverseRecOn with
  | nil => exact .nil
  | append_singleton entries entry induction =>
      by_cases seen : entry ∈ entries
      · rw [eraseDups_concat_of_mem seen]
        exact induction
      · rw [eraseDups_concat_of_not_mem seen]
        refine List.nodup_append.mpr ⟨induction, by simp, ?_⟩
        rintro listed member last single rfl
        rw [List.mem_singleton] at single
        exact seen (single ▸ List.mem_eraseDups.mp member)

end StackSampler
