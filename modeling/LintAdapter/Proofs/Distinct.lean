import Mathlib.Data.List.Induction
import Mathlib.Data.List.Nodup

namespace LintAdapter

variable {α : Type} [BEq α] [LawfulBEq α]

theorem eraseDups_concat (items : List α) (last : α) :
    (items ++ [last]).eraseDups =
      if last ∈ items then items.eraseDups else items.eraseDups ++ [last] := by
  rw [List.eraseDups_append]
  split_ifs with old
  · simp [List.removeAll, old]
  · simp [List.removeAll, old, List.eraseDups_cons]

theorem nodup_eraseDups (items : List α) : items.eraseDups.Nodup := by
  induction items using List.reverseRecOn with
  | nil => exact List.nodup_nil
  | append_singleton rest last ih =>
      rw [eraseDups_concat]
      split_ifs with old
      · exact ih
      · refine ih.append (List.nodup_singleton last) ?_
        rw [List.disjoint_singleton, List.mem_eraseDups]
        exact old

theorem eraseDups_of_nodup {items : List α} (once : items.Nodup) : items.eraseDups = items := by
  induction items using List.reverseRecOn with
  | nil => exact List.eraseDups_nil
  | append_singleton rest last ih =>
      obtain ⟨front, -, apart⟩ := List.nodup_append'.1 once
      rw [List.disjoint_singleton] at apart
      rw [eraseDups_concat, if_neg apart, ih front]

theorem eraseDups_filter (keep : α → Bool) (items : List α) :
    (items.filter keep).eraseDups = items.eraseDups.filter keep := by
  induction items using List.reverseRecOn with
  | nil => rfl
  | append_singleton rest last ih =>
      rw [List.filter_append, List.filter_singleton, eraseDups_concat]
      by_cases kept : keep last
      · simp only [kept, cond_true, eraseDups_concat, ih, List.mem_filter, and_true]
        split_ifs
        · rfl
        · simp [kept]
      · simp only [kept, cond_false, List.append_nil, ih]
        split_ifs
        · rfl
        · simp [kept]

theorem foldl_add_new (found items : List α) :
    items.foldl (fun found item => if found.contains item then found else found ++ [item])
      found.eraseDups = (found ++ items).eraseDups := by
  induction items using List.reverseRecOn with
  | nil => rw [List.append_nil, List.foldl_nil]
  | append_singleton rest last ih =>
      rw [List.foldl_concat, ih, ← List.append_assoc, eraseDups_concat]
      simp only [List.contains_iff_mem, List.mem_eraseDups]

end LintAdapter
