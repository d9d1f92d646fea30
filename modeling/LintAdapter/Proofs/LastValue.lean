import Mathlib.Data.List.Induction
import Mathlib.Data.List.Perm.Basic
import Mathlib.Data.List.Nodup

namespace LintAdapter

variable {κ α : Type} [BEq κ] [LawfulBEq κ] [DecidableEq κ]

theorem lookup_cons_eq_ite (key : κ) (value : α) (rest : List (κ × α)) (name : κ) :
    ((key, value) :: rest).lookup name = if name = key then some value else rest.lookup name := by
  by_cases same : name = key
  · rw [same, List.lookup_cons_self, if_pos rfl]
  · rw [List.lookup_cons, beq_false_of_ne same, if_neg same]

theorem lookup_eq_none_iff (pairs : List (κ × α)) (name : κ) :
    pairs.lookup name = none ↔ name ∉ pairs.map Prod.fst := by
  induction pairs with
  | nil => simp
  | cons pair rest ih =>
      rw [lookup_cons_eq_ite, List.map_cons, List.mem_cons, not_or, ← ih]
      by_cases same : name = pair.1 <;> simp [same]

def lastValue? (pairs : List (String × α)) (name : String) : Option α := pairs.reverse.lookup name

theorem lastValue?_concat (pairs : List (String × α)) (key : String) (value : α) (name : String) :
    lastValue? (pairs ++ [(key, value)]) name =
      if name = key then some value else lastValue? pairs name := by
  rw [lastValue?, List.reverse_append, List.reverse_singleton, List.singleton_append,
    lookup_cons_eq_ite]
  rfl

theorem lastValue?_append (first second : List (String × α)) (name : String) :
    lastValue? (first ++ second) name = (lastValue? second name).or (lastValue? first name) := by
  rw [lastValue?, List.reverse_append, List.lookup_append]
  rfl

theorem lastValue?_cons (key : String) (value : α) (rest : List (String × α)) (name : String) :
    lastValue? ((key, value) :: rest) name =
      (lastValue? rest name).or (if name = key then some value else none) := by
  rw [← List.singleton_append, lastValue?_append]
  exact congrArg _ (lookup_cons_eq_ite key value [] name)

theorem lastValue?_eq_none_iff (pairs : List (String × α)) (name : String) :
    lastValue? pairs name = none ↔ name ∉ pairs.map Prod.fst := by
  rw [lastValue?, lookup_eq_none_iff, List.map_reverse, List.mem_reverse]

theorem lastValue?_eq_some_iff (pairs : List (String × α)) (name : String) (value : α) :
    lastValue? pairs name = some value ↔
      ∃ before after, pairs = before ++ (name, value) :: after ∧ name ∉ after.map Prod.fst := by
  constructor
  · intro found
    obtain ⟨after, before, reversed, absent⟩ := List.lookup_eq_some_iff.1 found
    refine ⟨before.reverse, after.reverse, ?_, ?_⟩
    · rw [← List.reverse_reverse pairs, reversed]
      simp
    · rintro again
      obtain ⟨pair, member, rfl⟩ := List.mem_map.1 again
      simpa using absent pair (List.mem_reverse.1 member)
  · rintro ⟨before, after, rfl, absent⟩
    rw [lastValue?_append, lastValue?_cons, (lastValue?_eq_none_iff after name).2 absent]
    simp

theorem lastValue?_drop_earlier (before : List (String × α)) (key : String) (earlier : α)
    {after : List (String × α)} (again : key ∈ after.map Prod.fst) :
    lastValue? (before ++ (key, earlier) :: after) = lastValue? (before ++ after) := by
  funext name
  rw [lastValue?_append, lastValue?_append, lastValue?_cons]
  by_cases same : name = key
  · subst same
    cases found : lastValue? after name with
    | none => exact absurd again ((lastValue?_eq_none_iff after name).1 found)
    | some value => rfl
  · rw [if_neg same, Option.or_none]

theorem lastValue?_eq_some_iff_mem {pairs : List (String × α)} (nodup : (pairs.map Prod.fst).Nodup)
    (name : String) (value : α) : lastValue? pairs name = some value ↔ (name, value) ∈ pairs := by
  rw [lastValue?_eq_some_iff]
  constructor
  · rintro ⟨before, after, rfl, -⟩
    exact List.mem_append_right before List.mem_cons_self
  · intro member
    obtain ⟨before, after, rfl⟩ := List.append_of_mem member
    rw [List.map_append, List.map_cons] at nodup
    exact ⟨before, after, rfl, (List.nodup_cons.1 nodup.of_append_right).1⟩

theorem lastValue?_perm {first second : List (String × α)} (permuted : first.Perm second)
    (nodup : (first.map Prod.fst).Nodup) : lastValue? first = lastValue? second := by
  funext name
  refine Option.ext fun value => ?_
  rw [lastValue?_eq_some_iff_mem nodup, permuted.mem_iff,
    lastValue?_eq_some_iff_mem ((permuted.map Prod.fst).nodup_iff.1 nodup)]

theorem lookup_eq_lastValue? {pairs : List (String × α)} (nodup : (pairs.map Prod.fst).Nodup)
    (name : String) : pairs.lookup name = lastValue? pairs name := by
  rw [lastValue?_perm pairs.reverse_perm.symm nodup, lastValue?, List.reverse_reverse]

theorem lookup_perm {first second : List (String × α)} (permuted : first.Perm second)
    (nodup : (first.map Prod.fst).Nodup) (name : String) :
    first.lookup name = second.lookup name := by
  rw [lookup_eq_lastValue? nodup, lastValue?_perm permuted nodup,
    ← lookup_eq_lastValue? ((permuted.map Prod.fst).nodup_iff.1 nodup)]

theorem lookup_foldl_eq_lastValue? (set : List (String × α) → String × α → List (String × α))
    (lookup_set : ∀ held pair name, (set held pair).lookup name =
      if name = pair.1 then some pair.2 else held.lookup name)
    (pairs : List (String × α)) (name : String) :
    (pairs.foldl set []).lookup name = lastValue? pairs name := by
  induction pairs using List.reverseRecOn with
  | nil => rfl
  | append_singleton rest pair ih =>
      rw [List.foldl_concat, lookup_set, lastValue?_concat, ih]

theorem lookup_filter (keep : κ → Bool) (pairs : List (κ × α)) (name : κ) :
    (pairs.filter fun pair => keep pair.1).lookup name =
      if keep name then pairs.lookup name else none := by
  induction pairs with
  | nil => exact (ite_self none).symm
  | cons pair rest ih =>
      obtain ⟨key, value⟩ := pair
      rw [List.filter_cons, lookup_cons_eq_ite]
      by_cases kept : keep key
      · rw [if_pos kept, lookup_cons_eq_ite, ih]
        by_cases same : name = key
        · rw [if_pos same, if_pos same, same, if_pos kept]
        · rw [if_neg same, if_neg same]
      · rw [if_neg kept, ih]
        by_cases same : name = key
        · rw [same, if_neg kept, if_neg kept]
        · rw [if_neg same]

theorem lastValue?_filter (keep : String → Bool) (pairs : List (String × α)) (name : String) :
    lastValue? (pairs.filter fun pair => keep pair.1) name =
      if keep name then lastValue? pairs name else none := by
  rw [lastValue?, ← List.filter_reverse, lookup_filter]
  rfl

end LintAdapter
