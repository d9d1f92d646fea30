import LintAdapter.Proofs.Glob
import LintAdapter.Proofs.Synthesis.RuleSettings

namespace LintAdapter

open Rule (Setting Scope)
open RuleSettings (IdsIncrease)

def Rule.IsStory (id : String) : Prop := ∃ name, id = "storybook/" ++ name

theorem Rule.storybook_covers_iff (id : String) : Scope.storybook.covers id ↔ IsStory id := by
  have plain : ∀ c ∈ "storybook/".toList, Glob.IsPlain c := by simp [Glob.IsPlain]
  exact Glob.isMatch_star_iff plain id

theorem Rule.scope?_eq_some_iff (id : String) (scope : Scope) :
    scope? id = some scope ↔ scope = .storybook ∧ IsStory id := by
  rw [scope?, Scope.all, List.find?_singleton, ← storybook_covers_iff]
  split_ifs with covered
  · simp only [Option.some.injEq, covered, and_true, eq_comm]
  · simp only [covered, and_false, reduceCtorEq]

theorem Rule.scope?_eq_none_iff (id : String) : scope? id = none ↔ ¬ IsStory id := by
  rw [Option.eq_none_iff_forall_ne_some]
  constructor
  · intro unscoped story
    exact unscoped .storybook ((scope?_eq_some_iff id _).2 ⟨rfl, story⟩)
  · intro other scope found
    exact other ((scope?_eq_some_iff id scope).1 found).2

namespace Block

theorem mem_rulesIn (scope : Option Scope) (rules : RuleSettings) (id : String)
    (setting : Setting) :
    (id, setting) ∈ rulesIn scope rules ↔
      Rule.scope? id = scope ∧ lastValue? rules id = some setting := by
  rw [rulesIn, RuleSettings.mem_collect, lastValue?_filter fun id => Rule.scope? id = scope]
  by_cases inside : Rule.scope? id = scope <;> simp [inside]

theorem mem_storyRules (rules : RuleSettings) (id : String) (setting : Setting) :
    (id, setting) ∈ rulesIn (some .storybook) rules ↔
      Rule.IsStory id ∧ lastValue? rules id = some setting := by
  rw [mem_rulesIn, Rule.scope?_eq_some_iff, eq_self, true_and]

theorem mem_generalRules (rules : RuleSettings) (id : String) (setting : Setting) :
    (id, setting) ∈ rulesIn none rules ↔
      ¬ Rule.IsStory id ∧ lastValue? rules id = some setting := by
  rw [mem_rulesIn, Rule.scope?_eq_none_iff]

theorem rulesIn_eq_nil_iff (scope : Option Scope) (rules : RuleSettings) :
    rulesIn scope rules = [] ↔ ∀ rule ∈ rules, Rule.scope? rule.1 ≠ scope := by
  simp only [rulesIn, RuleSettings.collect_eq_nil_iff, List.filter_eq_nil_iff, decide_eq_true_eq]

theorem scopesOf_eq_nil {rules : RuleSettings} (missing : rulesIn (some .storybook) rules = []) :
    scopesOf rules = [] := by
  have unscoped : rules.filterMap (fun rule => Rule.scope? rule.1) = [] := by
    rw [List.filterMap_eq_nil_iff]
    intro rule member
    rw [Rule.scope?_eq_none_iff]
    intro story
    exact (rulesIn_eq_nil_iff _ rules).1 missing rule member
      ((Rule.scope?_eq_some_iff rule.1 _).2 ⟨rfl, story⟩)
  rw [scopesOf, unscoped, List.eraseDups_nil]

theorem scopesOf_eq_singleton {rules : RuleSettings}
    (present : rulesIn (some .storybook) rules ≠ []) : scopesOf rules = [.storybook] := by
  have same : ∀ scope ∈ rules.filterMap (fun rule => Rule.scope? rule.1), scope = .storybook := by
    intro scope member
    obtain ⟨rule, -, found⟩ := List.mem_filterMap.1 member
    exact ((Rule.scope?_eq_some_iff rule.1 scope).1 found).1
  rw [scopesOf]
  cases scopes : rules.filterMap fun rule => Rule.scope? rule.1 with
  | nil =>
      rw [List.filterMap_eq_nil_iff] at scopes
      refine absurd ((rulesIn_eq_nil_iff _ rules).2 fun rule member => ?_) present
      rw [scopes rule member]
      exact (Option.some_ne_none _).symm
  | cons scope rest =>
      rw [scopes] at same
      have others : rest.filter (fun other => !(other == scope)) = [] := by
        rw [List.filter_eq_nil_iff]
        intro other later
        rw [same other (List.mem_cons_of_mem _ later), same scope List.mem_cons_self]
        decide
      rw [List.eraseDups_cons, others, List.eraseDups_nil, same scope List.mem_cons_self]

def unlessEmpty (files : Option (List String)) : RuleSettings → List Block
  | [] => []
  | rule :: rest => [.rules files (rule :: rest)]

theorem flatMap_enabled_unlessEmpty (files : Option (List String)) (rules : RuleSettings) :
    (unlessEmpty files rules).flatMap enabled = rules := by
  cases rules with
  | nil => rfl
  | cons rule rest => rw [unlessEmpty, List.flatMap_singleton, enabled]

theorem ofRules_eq (rules : RuleSettings) :
    ofRules rules = .base ::
      (unlessEmpty (some Scope.storybook.files) (rulesIn (some .storybook) rules) ++
        unlessEmpty none (rulesIn none rules)) := by
  have last : general rules = unlessEmpty none (rulesIn none rules) := by
    rw [general]
    cases rulesIn none rules <;> rfl
  have first : (scopesOf rules).map (ofScope rules) =
      unlessEmpty (some Scope.storybook.files) (rulesIn (some .storybook) rules) := by
    cases stories : rulesIn (some .storybook) rules with
    | nil =>
        rw [scopesOf_eq_nil stories]
        rfl
    | cons rule rest =>
        rw [scopesOf_eq_singleton (stories ▸ List.cons_ne_nil rule rest), List.map_singleton,
          ofScope, stories, unlessEmpty]
  rw [ofRules, first, last, List.cons_append]

theorem flatMap_enabled_ofRules (rules : RuleSettings) :
    (ofRules rules).flatMap enabled = rulesIn (some .storybook) rules ++ rulesIn none rules := by
  rw [ofRules_eq, List.flatMap_cons, List.flatMap_append, flatMap_enabled_unlessEmpty,
    flatMap_enabled_unlessEmpty]
  rfl

theorem mem_flatMap_enabled_ofRules (rules : RuleSettings) (id : String) (setting : Setting) :
    (id, setting) ∈ (ofRules rules).flatMap enabled ↔ lastValue? rules id = some setting := by
  rw [flatMap_enabled_ofRules, List.mem_append, mem_storyRules, mem_generalRules]
  by_cases story : Rule.IsStory id <;> simp [story]

theorem nodup_enabled_ofRules (rules : RuleSettings) :
    (((ofRules rules).flatMap enabled).map Prod.fst).Nodup := by
  rw [flatMap_enabled_ofRules, List.map_append, List.nodup_append']
  refine ⟨(RuleSettings.idsIncrease_collect _).nodup,
    (RuleSettings.idsIncrease_collect _).nodup, ?_⟩
  rintro id inStories inOthers
  obtain ⟨⟨_, setting⟩, member, rfl⟩ := List.mem_map.1 inStories
  obtain ⟨⟨_, other⟩, general, rfl⟩ := List.mem_map.1 inOthers
  exact ((mem_generalRules rules _ other).1 general).1 ((mem_storyRules rules _ setting).1 member).1

theorem countP_blocks_with_id {blocks : List Block}
    (nodup : ((blocks.flatMap enabled).map Prod.fst).Nodup) (id : String) :
    blocks.countP (fun block => id ∈ block.enabled.map Prod.fst) =
      ((blocks.flatMap enabled).map Prod.fst).count id := by
  induction blocks with
  | nil => rfl
  | cons block rest ih =>
      rw [List.flatMap_cons, List.map_append] at nodup ⊢
      rw [List.countP_cons, List.count_append, ih nodup.of_append_right,
        nodup.of_append_left.count, Nat.add_comm]
      simp only [decide_eq_true_eq]

theorem mem_ids_ofRules (rules : RuleSettings) (id : String) :
    id ∈ ((ofRules rules).flatMap enabled).map Prod.fst ↔ id ∈ rules.map Prod.fst := by
  rw [← not_iff_not, ← lastValue?_eq_none_iff, ← lastValue?_eq_none_iff]
  have last : lastValue? ((ofRules rules).flatMap enabled) id = lastValue? rules id := by
    refine Option.ext fun setting => ?_
    rw [lastValue?_eq_some_iff_mem (nodup_enabled_ofRules rules), mem_flatMap_enabled_ofRules]
  rw [last]

theorem countP_ofRules_with_id (rules : RuleSettings) (id : String) :
    (ofRules rules).countP (fun block => id ∈ block.enabled.map Prod.fst) =
      if id ∈ rules.map Prod.fst then 1 else 0 := by
  rw [countP_blocks_with_id (nodup_enabled_ofRules rules), (nodup_enabled_ofRules rules).count]
  simp only [mem_ids_ofRules]

theorem eq_rules_of_mem_ofRules {settings : RuleSettings} {block : Block} {id : String}
    (member : block ∈ ofRules settings) (holds : id ∈ block.enabled.map Prod.fst) :
    ∃ rules, block = .rules ((Rule.scope? id).map Scope.files) rules := by
  obtain ⟨⟨_, setting⟩, listed, rfl⟩ := List.mem_map.1 holds
  rw [ofRules, List.mem_append, List.mem_cons, List.mem_map] at member
  rcases member with (rfl | ⟨scope, -, rfl⟩) | last
  · cases listed
  · rw [((mem_rulesIn (some scope) settings _ setting).1 listed).1]
    exact ⟨_, rfl⟩
  · rw [general] at last
    cases rest : rulesIn none settings with
    | nil =>
        rw [rest] at last
        cases last
    | cons rule others =>
        rw [rest, List.mem_singleton] at last
        subst last
        rw [enabled, ← rest] at listed
        rw [((mem_rulesIn none settings _ setting).1 listed).1]
        exact ⟨_, rfl⟩

theorem ofRules_eq_ofRules_iff (first second : RuleSettings) :
    ofRules first = ofRules second ↔ lastValue? first = lastValue? second := by
  constructor
  · intro equal
    funext id
    refine Option.ext fun setting => ?_
    rw [← mem_flatMap_enabled_ofRules, ← mem_flatMap_enabled_ofRules, equal]
  · intro same
    have collected (scope : Option Scope) : rulesIn scope first = rulesIn scope second := by
      refine RuleSettings.collect_congr (funext fun id => ?_)
      rw [lastValue?_filter fun id => Rule.scope? id = scope,
        lastValue?_filter fun id => Rule.scope? id = scope, same]
    rw [ofRules_eq, ofRules_eq, collected, collected]

/-- The base block enables nothing. Then come the rules about stories for their files and all other
rules for all files, each as one block in the order of the bytes of the ids unless there are none.
Each id has its last setting, and the blocks depend on nothing but the last settings. -/
theorem ofRules_partitions_last_settings (rules : RuleSettings) :
    (∃ stories others,
      ofRules rules = .base ::
        (unlessEmpty (some Scope.storybook.files) stories ++ unlessEmpty none others) ∧
      IdsIncrease stories ∧ IdsIncrease others ∧
      (∀ id setting, (id, setting) ∈ stories ↔
        Rule.IsStory id ∧ lastValue? rules id = some setting) ∧
      ∀ id setting, (id, setting) ∈ others ↔
        ¬ Rule.IsStory id ∧ lastValue? rules id = some setting) ∧
    enabled .base = [] ∧
    (∀ id, (ofRules rules).countP (fun block => id ∈ block.enabled.map Prod.fst) =
      if id ∈ rules.map Prod.fst then 1 else 0) ∧
    (∀ id scope, Rule.scope? id = some scope ↔ scope = .storybook ∧ Rule.IsStory id) ∧
    (∀ others, ofRules others = ofRules rules ↔ lastValue? others = lastValue? rules) ∧
    (∀ others, others.Perm rules → (others.map Prod.fst).Nodup → ofRules others = ofRules rules) ∧
    ∀ before id earlier after, rules = before ++ (id, earlier) :: after →
      id ∈ after.map Prod.fst → ofRules (before ++ after) = ofRules rules := by
  refine ⟨⟨rulesIn (some .storybook) rules, rulesIn none rules, ofRules_eq rules,
    RuleSettings.idsIncrease_collect _, RuleSettings.idsIncrease_collect _, mem_storyRules rules,
    mem_generalRules rules⟩, rfl, countP_ofRules_with_id rules, Rule.scope?_eq_some_iff, ?_, ?_, ?_⟩
  · exact fun others => ofRules_eq_ofRules_iff others rules
  · intro others permuted nodup
    exact (ofRules_eq_ofRules_iff others rules).2 (lastValue?_perm permuted nodup)
  · rintro before id earlier after rfl again
    exact (ofRules_eq_ofRules_iff _ _).2 (lastValue?_drop_earlier before id earlier again).symm

theorem ofRules_swap_and_repeat :
    ofRules [("semi", .enabled), ("storybook/a", .enabled)] =
      ofRules [("storybook/a", .enabled), ("semi", .enabled)] ∧
    ofRules [("semi", .enabled)] = ofRules [("semi", .withOptions []), ("semi", .enabled)] := by
  obtain ⟨-, -, -, -, -, permuted, -⟩ :=
    ofRules_partitions_last_settings [("storybook/a", .enabled), ("semi", .enabled)]
  obtain ⟨-, -, -, -, -, -, repeated⟩ :=
    ofRules_partitions_last_settings [("semi", .withOptions []), ("semi", .enabled)]
  exact ⟨permuted _ (.swap _ _ _) (by decide),
    repeated [] "semi" (.withOptions []) [("semi", .enabled)] rfl (by decide)⟩

end Block

end LintAdapter
