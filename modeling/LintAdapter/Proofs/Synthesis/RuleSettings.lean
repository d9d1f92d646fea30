import LintAdapter.Proofs.LastValue
import LintAdapter.Proofs.Text.Utf8
import LintAdapter.Synthesis.Block
import Mathlib.Data.List.Sort

namespace LintAdapter.RuleSettings

open Rule (Setting)
open Text (utf8 utf8_lt_utf8_iff)

def IdsIncrease (rules : RuleSettings) : Prop :=
  rules.Pairwise fun first second => utf8 first.1 < utf8 second.1

theorem idsIncrease_nil : IdsIncrease [] := .nil

theorem idsIncrease_cons (rule : String × Setting) (rest : RuleSettings) :
    IdsIncrease (rule :: rest) ↔ (∀ other ∈ rest, rule.1 < other.1) ∧ IdsIncrease rest := by
  simp only [IdsIncrease, List.pairwise_cons, utf8_lt_utf8_iff]

theorem mem_insert {id : String} {setting : Setting} {rules : RuleSettings}
    {rule : String × Setting} (member : rule ∈ insert id setting rules) :
    rule = (id, setting) ∨ rule ∈ rules := by
  induction rules with
  | nil => exact .inl (List.mem_singleton.1 member)
  | cons head rest ih =>
      rw [insert] at member
      split_ifs at member
      · exact (List.mem_cons.1 member).imp_right (List.mem_cons_of_mem _)
      · exact List.mem_cons.1 member
      · rcases List.mem_cons.1 member with rfl | later
        · exact .inr List.mem_cons_self
        · exact (ih later).imp_right (List.mem_cons_of_mem _)

theorem idsIncrease_insert (id : String) (setting : Setting) {rules : RuleSettings}
    (increase : IdsIncrease rules) : IdsIncrease (insert id setting rules) := by
  induction rules with
  | nil => exact List.pairwise_singleton _ _
  | cons head rest ih =>
      obtain ⟨above, ordered⟩ := (idsIncrease_cons head rest).1 increase
      rw [insert]
      split_ifs with same less
      · subst same
        exact (idsIncrease_cons _ _).2 ⟨above, ordered⟩
      · refine (idsIncrease_cons _ _).2 ⟨?_, increase⟩
        intro other member
        rcases List.mem_cons.1 member with rfl | later
        · exact less
        · exact lt_trans less (above other later)
      · refine (idsIncrease_cons _ _).2 ⟨?_, ih ordered⟩
        intro other member
        rcases mem_insert member with rfl | later
        · exact lt_of_le_of_ne (not_lt.1 less) (Ne.symm same)
        · exact above other later

theorem lookup_insert (id : String) (setting : Setting) (rules : RuleSettings) (other : String) :
    (insert id setting rules).lookup other =
      if other = id then some setting else rules.lookup other := by
  induction rules with
  | nil => exact lookup_cons_eq_ite id setting [] other
  | cons head rest ih =>
      obtain ⟨key, held⟩ := head
      rw [insert]
      split_ifs with sameKey less sameId sameId
      all_goals simp only [lookup_cons_eq_ite, ih]
      all_goals split_ifs <;> simp_all

theorem idsIncrease_collect (rules : RuleSettings) : IdsIncrease (collect rules) := by
  induction rules using List.reverseRecOn with
  | nil => exact idsIncrease_nil
  | append_singleton rest rule ih =>
      rw [collect, List.foldl_concat]
      exact idsIncrease_insert rule.1 rule.2 ih

theorem lookup_collect (rules : RuleSettings) (id : String) :
    (collect rules).lookup id = lastValue? rules id :=
  lookup_foldl_eq_lastValue? _ (fun held rule name => lookup_insert rule.1 rule.2 held name) rules
    id

theorem IdsIncrease.nodup {rules : RuleSettings} (increase : IdsIncrease rules) :
    (rules.map Prod.fst).Nodup := by
  refine List.Pairwise.map Prod.fst ?_ increase
  intro first second less same
  rw [same] at less
  exact List.lt_irrefl _ less

theorem mem_collect (rules : RuleSettings) (id : String) (setting : Setting) :
    (id, setting) ∈ collect rules ↔ lastValue? rules id = some setting := by
  have nodup := (idsIncrease_collect rules).nodup
  rw [← lookup_collect, lookup_eq_lastValue? nodup, lastValue?_eq_some_iff_mem nodup]

theorem collect_eq_nil_iff (rules : RuleSettings) : collect rules = [] ↔ rules = [] := by
  constructor
  · intro empty
    have absent (id : String) : id ∉ rules.map Prod.fst := by
      rw [← lastValue?_eq_none_iff, ← lookup_collect, empty, List.lookup_nil]
    exact List.map_eq_nil_iff.1 (List.eq_nil_iff_forall_not_mem.2 absent)
  · rintro rfl
    rfl

theorem IdsIncrease.eq_of_mem_iff {first second : RuleSettings} (firstIncrease : IdsIncrease first)
    (secondIncrease : IdsIncrease second) (same : ∀ rule, rule ∈ first ↔ rule ∈ second) :
    first = second := by
  have irreflexive :
      Std.Irrefl fun first second : String × Setting => utf8 first.1 < utf8 second.1 :=
    ⟨fun _ => List.lt_irrefl _⟩
  have asymmetric :
      Std.Antisymm fun first second : String × Setting => utf8 first.1 < utf8 second.1 :=
    ⟨fun _ _ less greater => absurd greater (List.lt_asymm less)⟩
  exact List.Pairwise.eq_of_mem_iff firstIncrease secondIncrease same

theorem collect_congr {first second : RuleSettings} (same : lastValue? first = lastValue? second) :
    collect first = collect second := by
  refine (idsIncrease_collect first).eq_of_mem_iff (idsIncrease_collect second) ?_
  rintro ⟨id, setting⟩
  rw [mem_collect, mem_collect, same]

end LintAdapter.RuleSettings
