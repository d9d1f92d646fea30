import LintAdapter.Proofs.Conversion.Findings
import LintAdapter.Proofs.Rule.Id
import LintAdapter.Proofs.Synthesis.Policy

namespace LintAdapter

open Rule (Setting)

def Request.ofPatterns (patterns : List Pattern) : Request :=
  ⟨none, some [⟨"eslint", some patterns⟩]⟩

theorem Request.isTool_singleton {tool : Section} (name : tool.name = "eslint") :
    IsTool [tool] tool :=
  .named [] [] rfl name (List.forall_mem_nil _)

theorem Request.selects_ofPatterns (patterns : List Pattern) (notEmpty : patterns ≠ []) :
    (ofPatterns patterns).Selects patterns :=
  ⟨notEmpty, _, _, rfl, isTool_singleton rfl, rfl⟩

namespace Configuration

theorem map_fst_selectedRules (patterns : List Pattern) :
    (selectedRules patterns).map Prod.fst =
      (patterns.map Pattern.id).map Rule.ofPlatformId := by
  rw [selectedRules, List.map_map, List.map_map]
  rfl

theorem bijOn_selectedRules {patterns : List Pattern}
    (noSlash : ∀ pattern ∈ patterns, '/' ∉ pattern.id.toList) :
    Set.BijOn Rule.ofPlatformId {id | id ∈ patterns.map Pattern.id}
      {id | id ∈ (selectedRules patterns).map Prod.fst} := by
  have image : {id | id ∈ (selectedRules patterns).map Prod.fst} =
      Rule.ofPlatformId '' {id | id ∈ patterns.map Pattern.id} := by
    ext id
    rw [map_fst_selectedRules]
    exact List.mem_map
  rw [image]
  refine Set.InjOn.bijOn_image (Rule.injOn_ofPlatformId.mono ?_)
  intro id selected
  obtain ⟨pattern, member, rfl⟩ := List.mem_map.1 selected
  exact noSlash pattern member

theorem toPlatformId_of_mem_selectedRules {patterns : List Pattern}
    (noSlash : ∀ pattern ∈ patterns, '/' ∉ pattern.id.toList) {rule : String}
    (enabled : rule ∈ (selectedRules patterns).map Prod.fst) :
    Rule.toPlatformId rule ∈ patterns.map Pattern.id ∧
      Rule.ofPlatformId (Rule.toPlatformId rule) = rule := by
  rw [map_fst_selectedRules] at enabled
  obtain ⟨id, selected, rfl⟩ := List.mem_map.1 enabled
  obtain ⟨pattern, member, rfl⟩ := List.mem_map.1 selected
  rw [(Rule.toPlatformId_ofPlatformId_eq_iff pattern.id).2 (noSlash pattern member)]
  exact ⟨selected, rfl⟩

/-- The ids that the platform selects stand for one enabled rule each, and every enabled rule is one
of them. Wherever a batch without fatal messages stands among others, the issue of a message about
an enabled rule has the selected id that the rule came from. -/
theorem create_keeps_selected_ids (files : Files.Tree) (repository : OsString) (request : Request)
    (registry : Registry) (settings : Settings) (patterns : List Pattern)
    (isDirectory : files.isDirectory repository) (selects : request.Selects patterns)
    (noSlash : ∀ pattern ∈ patterns, '/' ∉ pattern.id.toList) :
    ∃ configuration,
      create files repository request registry settings =
        .ok (configuration, filesFor request) ∧
      (configuration.rules.map Prod.fst).Nodup ∧
      Set.BijOn Rule.ofPlatformId {id | id ∈ patterns.map Pattern.id}
        {id | id ∈ configuration.rules.map Prod.fst} ∧
      ∀ (reporting : Settings) (before : List Batch) (batch : Batch) (after : List Batch),
        batch.fatalCount = 0 → ∃ found,
          Finding.ofBatches reporting.suggestions (before ++ batch :: after) =
            Finding.ofBatches reporting.suggestions before ++ found ++
              Finding.ofBatches reporting.suggestions after ∧
          List.Forall₂ (fun message finding => ∃ issue, finding = .issue issue ∧
            ∀ rule ∈ configuration.rules.map Prod.fst, message.ruleId = some rule →
              issue.patternId ∈ patterns.map Pattern.id ∧
                Rule.ofPlatformId issue.patternId = rule) batch.messages found := by
  obtain ⟨configuration, blocks, created⟩ : ∃ configuration,
      configuration.blocks = some (Block.ofRules (selectedRules patterns)) ∧
        create files repository request registry settings =
          .ok (configuration, filesFor request) :=
    ⟨_, rfl, create_of_selects isDirectory selects registry settings⟩
  refine ⟨configuration, created, ?_, ?_, ?_⟩
  · rw [rules, blocks]
    exact Block.nodup_enabled_ofRules _
  · simp only [mem_ids_rules_iff blocks]
    exact bijOn_selectedRules noSlash
  · -- The findings of the batches around it say nothing about the findings of a batch.
    intro reporting before batch after whole
    refine ⟨batch.findings reporting.suggestions, ?_, ?_⟩
    · rw [Finding.ofBatches_append, ← List.singleton_append, Finding.ofBatches_append,
        Finding.ofBatches_singleton, List.append_assoc]
    · have reported := (batch.findings_eq_iff reporting _).1 rfl
      obtain ⟨issues, equal, reports⟩ := reported.exists_issues (Nat.not_lt.2 whole.le)
      rw [equal, List.forall₂_map_right_iff]
      refine reports.imp fun message issue reports => ⟨issue, rfl, fun rule enabled named => ?_⟩
      rw [reports.rule rule named]
      exact toPlatformId_of_mem_selectedRules noSlash ((mem_ids_rules_iff blocks rule).1 enabled)

theorem create_keeps_plugin_id :
    ∃ configuration issue,
      create .empty "." (.ofPatterns [⟨"semi", none⟩, ⟨"react_jsx-key", none⟩, ⟨"semi", some []⟩])
        .unavailable .default = .ok (configuration, defaultFiles) ∧
      "react/jsx-key" ∈ configuration.rules.map Prod.fst ∧
      Finding.ofBatches false
        [⟨"a.js", [{ Message.blank with ruleId := some "react/jsx-key" }], 0, none⟩] =
          [.issue issue] ∧
      issue.patternId = "react_jsx-key" := by
  obtain ⟨configuration, created, -, bijection, reported⟩ :=
    create_keeps_selected_ids .empty "." _ .unavailable .default _ rfl
      (Request.selects_ofPatterns
        [⟨"semi", none⟩, ⟨"react_jsx-key", none⟩, ⟨"semi", some []⟩] (List.cons_ne_nil _ _))
      (by decide)
  have rule : Rule.ofPlatformId "react_jsx-key" = "react/jsx-key" := by
    rw [Rule.ofPlatformId, ← String.toList_inj, String.toList_map]
    decide
  have enabled : "react/jsx-key" ∈ configuration.rules.map Prod.fst :=
    rule ▸ bijection.mapsTo (by decide)
  obtain ⟨found, equal, issues⟩ := reported .default []
    ⟨"a.js", [{ Message.blank with ruleId := some "react/jsx-key" }], 0, none⟩ [] rfl
  obtain ⟨_, rest, ⟨issue, rfl, named⟩, last, rfl⟩ := List.forall₂_cons_left_iff.1 issues
  obtain rfl := List.forall₂_nil_left_iff.1 last
  obtain ⟨selected, back⟩ := named "react/jsx-key" enabled rfl
  refine ⟨configuration, issue, created, enabled, equal, ?_⟩
  exact bijection.injOn selected (by decide) (back.trans rule.symm)

def recommendedPatterns (entries : List Catalog.Entry) : List Pattern :=
  (entries.filter isRecommended).map fun entry => {
    id := Rule.toPlatformId entry.id
    parameters := if entry.metadata.defaults = [] then none else some entry.metadata.defaults }

theorem selectedRules_recommendedPatterns {entries : List Catalog.Entry}
    (noUnderscore : ∀ entry ∈ entries, isRecommended entry → '_' ∉ entry.id.toList) :
    selectedRules (recommendedPatterns entries) = recommendedRules entries := by
  rw [selectedRules, recommendedPatterns, recommendedRules, List.map_map]
  refine List.map_congr_left fun entry member => ?_
  obtain ⟨listed, recommended⟩ := List.mem_filter.1 member
  have id := (Rule.ofPlatformId_toPlatformId_eq_iff entry.id).2
    (noUnderscore entry listed recommended)
  refine Prod.ext id ?_
  -- An empty list of parameters is another setting than none, so only some defaults are listed.
  cases defaults : entry.metadata.defaults with
  | nil => simp [Pattern.setting, Setting.ofParameters, Rule.Metadata.defaultSetting,
      Setting.ofDefaults, defaults]
  | cons parameter rest => simp [Pattern.setting, Rule.Metadata.defaultSetting,
      Setting.ofDefaults, defaults]

/-- The recommended rules of a catalog are printed just as when a request without any registry
selects them under their ids on the platform with their default parameters. -/
theorem create_recommends_as_selected (files : Files.Tree) (repository : OsString)
    (request : Request) (entries : List Catalog.Entry) (settings : Settings)
    (isDirectory : files.isDirectory repository)
    (missing : repositoryFile? files repository = none)
    (unselected : ∀ patterns, ¬ request.Selects patterns)
    (recommends : ∃ entry ∈ entries, isRecommended entry)
    (noUnderscore : ∀ entry ∈ entries, isRecommended entry → '_' ∉ entry.id.toList) :
    ∃ recommended,
      create files repository request (.ok entries) settings =
        .ok (recommended, filesFor request) ∧
      recommended.origin = .recommended ∧
      ∀ (selecting : Request) (tools : List Section) (tool : Section) (registry : Registry),
        selecting.tools = some tools → Request.IsTool tools tool →
        tool.patterns = some (recommendedPatterns entries) →
        ∃ selected,
          create files repository selecting registry settings =
            .ok (selected, filesFor selecting) ∧
          selected.origin = .selection ∧ selected.toValue = recommended.toValue := by
  refine ⟨_, create_of_recommends isDirectory missing unselected entries settings, rfl, ?_⟩
  intro selecting tools tool registry sections isTool patterns
  have notEmpty : recommendedPatterns entries ≠ [] := by
    obtain ⟨entry, listed, recommended⟩ := recommends
    rw [recommendedPatterns, ne_eq, List.map_eq_nil_iff]
    exact List.ne_nil_of_mem (List.mem_filter.2 ⟨listed, recommended⟩)
  have selects : selecting.Selects (recommendedPatterns entries) :=
    ⟨notEmpty, tools, tool, sections, isTool, patterns⟩
  refine ⟨_, create_of_selects isDirectory selects registry settings, rfl, ?_⟩
  rw [missing, selectedRules_recommendedPatterns noUnderscore]
  rfl

theorem create_recommends_default_as_selected :
    ∃ recommended selected,
      create .empty "." .empty (.ok [⟨"no-var", ⟨true, true, none⟩⟩,
        ⟨"semi", ⟨false, true, some (.object [("default", .text "always")])⟩⟩]) .default =
          .ok (recommended, defaultFiles) ∧
      create .empty "." (.ofPatterns [⟨"semi", some [⟨"unnamedParam", .text "always"⟩]⟩])
        .unavailable .default = .ok (selected, defaultFiles) ∧
      selected.toValue = recommended.toValue := by
  let deprecated : Catalog.Entry := ⟨"no-var", ⟨true, true, none⟩⟩
  let current : Catalog.Entry :=
    ⟨"semi", ⟨false, true, some (.object [("default", .text "always")])⟩⟩
  have isCurrent : isRecommended current := by decide +kernel
  have isDeprecated : ¬ isRecommended deprecated := by simp [isRecommended, deprecated]
  have id : Rule.toPlatformId "semi" = "semi" := by
    rw [Rule.toPlatformId, ← String.toList_inj, String.toList_map]
    decide
  have patterns : recommendedPatterns [deprecated, current] =
      [⟨"semi", some [⟨"unnamedParam", .text "always"⟩]⟩] := by
    rw [recommendedPatterns, List.filter_cons_of_neg isDeprecated,
      List.filter_cons_of_pos isCurrent, List.filter_nil, List.map_singleton, id]
    rfl
  obtain ⟨recommended, created, -, selecting⟩ :=
    create_recommends_as_selected .empty "." .empty [deprecated, current] .default rfl rfl
      (Request.empty.selection?_eq_none_iff.1 rfl) ⟨current, by simp, isCurrent⟩
      (by simp [deprecated, current])
  obtain ⟨selected, chosen, -, same⟩ := selecting
    (.ofPatterns [⟨"semi", some [⟨"unnamedParam", .text "always"⟩]⟩]) _ _ .unavailable rfl
    (Request.isTool_singleton rfl) (congrArg some patterns.symm)
  exact ⟨recommended, selected, created, chosen, same⟩

end Configuration

end LintAdapter
