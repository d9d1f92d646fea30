import LintAdapter.Cli.RuleReport
import LintAdapter.Proofs.Cli.Config
import LintAdapter.Proofs.Rule.Id
import LintAdapter.Proofs.Synthesis.Recommended

namespace LintAdapter

open Rule (Scope)

namespace RuleReport

theorem linterId_of_slash {name : String} (slash : '/' ∈ name.toList) : linterId name = name :=
  if_pos (List.contains_iff_mem.2 slash)

theorem linterId_of_no_slash {name : String} (noSlash : '/' ∉ name.toList) :
    linterId name = Rule.ofPlatformId name :=
  if_neg fun slash => noSlash (List.contains_iff_mem.1 slash)

theorem linterId_eq_self {id : String} (own : '/' ∈ id.toList ∨ '_' ∉ id.toList) :
    linterId id = id := by
  by_cases slash : '/' ∈ id.toList
  · exact linterId_of_slash slash
  · rw [linterId_of_no_slash slash]
    exact Rule.ofPlatformId_eq_self (own.resolve_left slash)

theorem linterId_linterId (name : String) : linterId (linterId name) = linterId name := by
  by_cases slash : '/' ∈ name.toList
  · rw [linterId_of_slash slash, linterId_of_slash slash]
  · apply linterId_eq_self
    rw [linterId_of_no_slash slash]
    exact .inr (Rule.underscore_not_mem_ofPlatformId name)

theorem linterId_toPlatformId {id : String} (noUnderscore : '_' ∉ id.toList) :
    linterId (Rule.toPlatformId id) = linterId id := by
  rw [linterId_of_no_slash (Rule.slash_not_mem_toPlatformId id),
    (Rule.ofPlatformId_toPlatformId_eq_iff id).2 noUnderscore, linterId_eq_self (.inr noUnderscore)]

theorem inspect_eq_of_linterId_eq {first second : String} (same : linterId first = linterId second)
    (catalog : Option (List Catalog.Entry)) : inspect first catalog = inspect second catalog := by
  rw [inspect, inspect, same]

def hasLabel (label row : String) : Bool := label.toList.isPrefixOf row.toList

theorem toList_row (label value : String) : (row label value).toList =
    label.toList ++ (List.replicate (18 - label.length) ' ' ++ ' ' :: value.toList ++ ['\n']) := by
  simp [row]

theorem filter_rows (report : RuleReport) :
    report.rows.filter (hasLabel "Default setting:") =
      (report.metadata.map fun metadata =>
        row "Default setting:" (shownSetting metadata).toValue.compact).toList := by
  obtain ⟨id, platformId, unsupported, undocumented, scope, metadata⟩ := report
  cases metadata with
  | none => simp [rows, hasLabel, toList_row]
  | some metadata => simp [rows, metadataRows, hasLabel, toList_row]

theorem row_defaultSetting (value : String) :
    row "Default setting:" value = "Default setting:   " ++ value ++ "\n" := by
  have padded : "Default setting:" ++ String.ofList (List.replicate 2 ' ') ++ " " =
      "Default setting:   " := by decide +kernel
  exact congrArg (· ++ value ++ "\n") padded

theorem shownSetting_eq (metadata : Rule.Metadata) :
    shownSetting metadata = metadata.defaultSetting := by
  rw [shownSetting, Rule.Metadata.defaultSetting, Rule.Setting.ofDefaults]

theorem filter_rows_of_metadata {report : RuleReport} {metadata : Rule.Metadata}
    (known : report.metadata = some metadata) :
    report.rows.filter (hasLabel "Default setting:") =
      ["Default setting:   " ++ metadata.defaultSetting.toValue.compact ++ "\n"] := by
  rw [filter_rows, known, Option.map_some, Option.toList_some, row_defaultSetting, shownSetting_eq]

/-- A configuration enables a rule as the report on it says. The setting is the one in the only row
of its label. -/
structure AgreesWith (report : RuleReport) (configuration : Configuration) (id : String) :
    Prop where
  sameId : report.id = id
  enabled : id ∈ configuration.rules.map Prod.fst ↔ ∃ metadata, report.metadata = some metadata ∧
    report.unsupported = false ∧ metadata.deprecated = false ∧ metadata.recommended = true
  setting : ∀ setting, (id, setting) ∈ configuration.rules →
    report.rows.filter (hasLabel "Default setting:") =
      ["Default setting:   " ++ setting.toValue.compact ++ "\n"]
  once : id ∈ configuration.rules.map Prod.fst →
    (configuration.blocks.getD []).countP (fun block => id ∈ block.enabled.map Prod.fst) = 1
  files : ∀ block ∈ configuration.blocks.getD [], id ∈ block.enabled.map Prod.fst →
    ∃ rules, block = .rules (report.scope.map Scope.files) rules

section

variable {entries : List Catalog.Entry} (nodup : (entries.map Catalog.Entry.id).Nodup)

include nodup

theorem inspect_metadata_eq_some_iff (name : String) (metadata : Rule.Metadata) :
    (inspect name (some entries)).metadata = some metadata ↔
      ⟨linterId name, metadata⟩ ∈ entries := by
  rw [inspect, ofId, Option.bind_some, Option.map_eq_some_iff]
  constructor
  · rintro ⟨⟨id, _⟩, found, rfl⟩
    obtain ⟨member, same⟩ := (Catalog.find?_eq_some_iff nodup _ _).1 found
    exact same ▸ member
  · intro member
    exact ⟨_, (Catalog.find?_eq_some_iff nodup _ _).2 ⟨member, rfl⟩, rfl⟩

variable {configuration : Configuration}
  (blocks : configuration.blocks = some (Block.ofRules (Configuration.recommendedRules entries)))

include blocks

theorem mem_rules_iff_recommended (id : String) (setting : Rule.Setting) :
    (id, setting) ∈ configuration.rules ↔ ∃ metadata, ⟨id, metadata⟩ ∈ entries ∧
      Configuration.isRecommended ⟨id, metadata⟩ ∧ setting = metadata.defaultSetting := by
  rw [Configuration.mem_rules_iff blocks,
    lastValue?_eq_some_iff_mem (Configuration.nodup_recommendedRules nodup),
    Configuration.mem_recommendedRules]
  constructor
  · rintro ⟨⟨_, metadata⟩, member, rfl, recommends, rfl⟩
    exact ⟨metadata, member, recommends, rfl⟩
  · rintro ⟨metadata, member, recommends, rfl⟩
    exact ⟨_, member, rfl, recommends, rfl⟩

theorem inspect_agreesWith {id : String} (own : linterId id = id) :
    (inspect id (some entries)).AgreesWith configuration id := by
  have known (metadata : Rule.Metadata) :
      (inspect id (some entries)).metadata = some metadata ↔ ⟨id, metadata⟩ ∈ entries := by
    rw [inspect_metadata_eq_some_iff nodup, own]
  have unsupported : (inspect id (some entries)).unsupported = Rule.isUnsupported id := by
    rw [inspect, own, ofId]
  have scope : (inspect id (some entries)).scope = Rule.scope? id := by
    rw [inspect, own, ofId]
  refine ⟨own, ?_, ?_, ?_, ?_⟩
  · simp only [List.mem_map, Prod.exists, exists_and_right, exists_eq_right,
      mem_rules_iff_recommended nodup blocks, known, unsupported, Configuration.isRecommended,
      Bool.and_eq_true, Bool.not_eq_true']
    constructor
    · rintro ⟨setting, metadata, member, ⟨⟨supported, current⟩, tier⟩, rfl⟩
      exact ⟨metadata, member, supported, current, tier⟩
    · rintro ⟨metadata, member, supported, current, tier⟩
      exact ⟨_, metadata, member, ⟨⟨supported, current⟩, tier⟩, rfl⟩
  · intro setting member
    rw [mem_rules_iff_recommended nodup blocks] at member
    obtain ⟨metadata, listed, -, rfl⟩ := member
    exact filter_rows_of_metadata ((known metadata).2 listed)
  · intro enabled
    rw [Configuration.mem_ids_rules_iff blocks] at enabled
    rw [blocks, Option.getD_some, Block.countP_ofRules_with_id, if_pos enabled]
  · intro block member holds
    rw [blocks, Option.getD_some] at member
    rw [scope]
    exact Block.eq_rules_of_mem_ofRules member holds

end

theorem prints_rows (report : RuleReport) :
    Cli.Run.Prints (report.rows.forM Cli.Run.print) (some (String.join report.rows)) := by
  have prints := Cli.Run.prints_forM report.rows fun row => row
  rwa [List.map_id'] at prints

theorem prints_runRule {files : Files.Tree} {settings : Settings} {path : OsString} {text : String}
    {entries : List Catalog.Entry} (chosen : settings.catalog = some path)
    (read : files.read path = .ok text) (accepted : Catalog.ofText text = .ok entries)
    (name : String) :
    Cli.Run.Prints (Cli.runRule files settings name)
      (some (String.join (inspect name (some entries)).rows)) := by
  have loaded : Catalog.load files path = .ok entries :=
    (Catalog.load_eq_ok_iff entries).2 ⟨text, read, accepted⟩
  have loads : Cli.Run.Gives (Cli.loadCatalog files path) (some entries) := by
    have gives := Cli.gives_loadCatalog files path
    rw [loaded] at gives
    exact gives
  have catalog : Cli.Run.Gives (Cli.catalogOf files settings) (some (some entries)) := by
    rw [Cli.catalogOf, chosen]
    dsimp only
    rw [← bind_pure_comp]
    exact loads.map some
  exact catalog.goesOn (prints_rows _)

/-- The report on a rule tells what the catalog says of it, and agrees with the options for a
repository that are made from the same catalog. It is the same for both spellings of an id, where
these can be told apart. -/
theorem inspect_agrees_with_create (text : String) (entries : List Catalog.Entry)
    (accepted : Catalog.ofText text = .ok entries) :
    (∀ files repository request settings, Files.Tree.isDirectory files repository →
      Configuration.repositoryFile? files repository = none →
      (∀ patterns, ¬ Request.Selects request patterns) →
      ∃ configuration,
        Configuration.create files repository request (.ok entries) settings =
          .ok (configuration, Configuration.filesFor request) ∧
        ∀ id, '/' ∈ id.toList ∨ '_' ∉ id.toList →
          (inspect id (some entries)).AgreesWith configuration id) ∧
    (∀ world arguments invocation name settings path, Cli.read arguments = .ok invocation →
      invocation.command = .rule name →
      Cli.effectiveSettings world (Cli.settingsSource world invocation) = .ok settings →
      settings.catalog = some path → world.files.read path = .ok text →
      (Cli.program world arguments).exitCode = 0 ∧
        (Cli.program world arguments).stdout = String.join (inspect name (some entries)).rows) ∧
    (∀ name metadata, (inspect name (some entries)).metadata = some metadata ↔
      ⟨(inspect name (some entries)).id, metadata⟩ ∈ entries) ∧
    (∀ name catalog, inspect (inspect name catalog).id catalog = inspect name catalog) ∧
    ∀ id catalog, '_' ∉ id.toList →
      inspect (Rule.toPlatformId id) catalog = inspect id catalog := by
  refine ⟨?_, ?_, inspect_metadata_eq_some_iff (Catalog.nodup_ids accepted), ?_, ?_⟩
  · intro files repository request settings isDirectory missing unselected
    refine ⟨_, Configuration.create_of_recommends isDirectory missing unselected entries settings,
      fun id own => ?_⟩
    exact inspect_agreesWith (Catalog.nodup_ids accepted) rfl (linterId_eq_self own)
  · intro world arguments invocation name settings path reads reports loads chosen read
    have prints : (Cli.program world arguments).Prints
        (some (String.join (inspect name (some entries)).rows)) := by
      rw [Cli.program_eq_runWith reads loads]
      apply Cli.runWith_prints
      rw [reports]
      exact prints_runRule chosen read accepted name
    exact ⟨prints.exitCode, prints.stdout⟩
  · intro name catalog
    exact inspect_eq_of_linterId_eq (linterId_linterId name) catalog
  · intro id catalog noUnderscore
    exact inspect_eq_of_linterId_eq (linterId_toPlatformId noUnderscore) catalog

def storyRule : Json.Value :=
  .object [("storybook/a_b", .object [
    ("docs", .object [("recommended", .bool true)]),
    ("schema", .list [.object [("enum", .list [.text "always", .text "never"])]])])]

def storyMetadata : Rule.Metadata :=
  ⟨false, true, some (.list [.object [("enum", .list [.text "always", .text "never"])]])⟩

theorem ofText_storyRule :
    Catalog.ofText storyRule.compact = .ok [⟨"storybook/a_b", storyMetadata⟩] := by
  have exact : storyRule.Exact := by
    have texts : ∀ item ∈ [Json.Value.text "always", .text "never"], item.Exact := by
      simp only [List.forall_mem_cons]
      exact ⟨.text _, .text _, List.forall_mem_nil _⟩
    have choices : (Json.Value.object [("enum", .list [.text "always", .text "never"])]).Exact :=
      .object (by simp) (List.forall_mem_singleton.2 (.list texts))
    have docs : (Json.Value.object [("recommended", .bool true)]).Exact :=
      .object (by simp) (List.forall_mem_singleton.2 (.bool true))
    refine .object (by simp) (List.forall_mem_singleton.2 (.object (by simp) ?_))
    simp only [List.forall_mem_cons]
    exact ⟨docs, .list (List.forall_mem_singleton.2 choices), List.forall_mem_nil _⟩
  exact (Catalog.ofText_compact exact (by decide)).trans rfl

def storyWorld : Cli.World where
  files := (Files.Tree.empty.put ["work", "lintbridge.toml"]
    (.file "catalog = \"rules.json\"".toUTF8)).put ["work", "rules.json"]
      (.file storyRule.compact.toUTF8)
  environment := []
  stdin := .empty

theorem effectiveSettings_storyWorld (id : String) :
    Cli.effectiveSettings storyWorld (Cli.settingsSource storyWorld ⟨false, none, .rule id⟩) =
      .ok ⟨false, false, some "./rules.json", []⟩ := by
  have accepted : Settings.ofText "catalog = \"rules.json\"" =
      .ok ⟨false, false, some "rules.json", []⟩ :=
    (Cli.toOption_eq_some_iff _ _).1 (by decide +kernel)
  have source : Cli.settingsSource storyWorld ⟨false, none, .rule id⟩ =
      .project "./lintbridge.toml" := by rfl
  rw [source, Cli.effectiveSettings_eq_ok_iff]
  exact .file "./lintbridge.toml" _ _ (Files.Tree.read_of_look_text rfl) accepted

theorem inspect_story :
    inspect "storybook/a_b" (some [⟨"storybook/a_b", storyMetadata⟩]) =
      ⟨"storybook/a_b", "storybook_a_b", false, false, some .storybook, some storyMetadata⟩ := by
  have same : linterId "storybook/a_b" = "storybook/a_b" := linterId_eq_self (.inl (by decide))
  have platformId : Rule.toPlatformId "storybook/a_b" = "storybook_a_b" := by decide +kernel
  have supported : Rule.isUnsupported "storybook/a_b" = false := by decide +kernel
  have documented : Rule.isUndocumented "storybook/a_b" = false := by decide +kernel
  have scope : Rule.scope? "storybook/a_b" = some .storybook := by rfl
  rw [inspect, same, ofId, platformId, supported, documented, scope]
  rfl

theorem inspect_enabled_story :
    (∃ configuration rules,
      Configuration.create storyWorld.files "." .empty (.ok [⟨"storybook/a_b", storyMetadata⟩])
        .default = .ok (configuration, Configuration.defaultFiles) ∧
      (∃ setting, ("storybook/a_b", setting) ∈ configuration.rules ∧
        setting.toValue.compact = "[\"error\",\"always\"]") ∧
      .rules (some Scope.storybook.files) rules ∈ configuration.blocks.getD []) ∧
    Cli.read ["rule", "storybook/a_b"] = .ok ⟨false, none, .rule "storybook/a_b"⟩ ∧
    (Cli.program storyWorld ["rule", "storybook/a_b"]).exitCode = 0 ∧
    (Cli.program storyWorld ["rule", "storybook/a_b"]).stdout =
      "ESLint id:         storybook/a_b\n" ++
      "Platform id:       storybook_a_b\n" ++
      "Plugin:            storybook\n" ++
      "Blacklisted:       no\n" ++
      "Hidden from docs:  no\n" ++
      "Scope:             storybook (*.stories.@(ts|tsx|js|jsx|mjs|cjs), " ++
        "*.story.@(ts|tsx|js|jsx|mjs|cjs))\n" ++
      "Deprecated:        no\n" ++
      "Recommended:       yes\n" ++
      "Default setting:   [\"error\",\"always\"]\n" := by
  obtain ⟨agrees, prints, -⟩ := inspect_agrees_with_create _ _ ofText_storyRule
  obtain ⟨configuration, created, agree⟩ := agrees storyWorld.files "." .empty .default rfl rfl
    (Request.empty.selection?_eq_none_iff.1 rfl)
  have same := agree "storybook/a_b" (.inl (by decide))
  have enabled : "storybook/a_b" ∈ configuration.rules.map Prod.fst :=
    same.enabled.2 ⟨storyMetadata, by rw [inspect_story], by rw [inspect_story], rfl, rfl⟩
  have one := same.once enabled
  obtain ⟨block, held, holds⟩ := List.countP_pos_iff.1 (one ▸ Nat.one_pos)
  obtain ⟨rules, rfl⟩ := same.files block held (of_decide_eq_true holds)
  rw [inspect_story] at held
  have reads : Cli.read ["rule", "storybook/a_b"] = .ok ⟨false, none, .rule "storybook/a_b"⟩ := by
    rfl
  obtain ⟨succeeds, stdout⟩ := prints storyWorld _ _ _ _ _ reads rfl
    (effectiveSettings_storyWorld _) rfl (Files.Tree.read_of_look_text rfl)
  refine ⟨⟨configuration, rules, created, ?_, held⟩, reads, succeeds, ?_⟩
  · obtain ⟨⟨_, setting⟩, member, rfl⟩ := List.mem_map.1 enabled
    have rows := (same.setting setting member).symm.trans (filter_rows_of_metadata rfl)
    rw [List.singleton_inj, String.append_left_inj, String.append_right_inj] at rows
    exact ⟨setting, member, rows.trans rfl⟩
  · have rows : (inspect "storybook/a_b" (some [⟨"storybook/a_b", storyMetadata⟩])).rows = [
        "ESLint id:         storybook/a_b\n",
        "Platform id:       storybook_a_b\n",
        "Plugin:            storybook\n",
        "Blacklisted:       no\n",
        "Hidden from docs:  no\n",
        "Scope:             storybook (*.stories.@(ts|tsx|js|jsx|mjs|cjs), " ++
          "*.story.@(ts|tsx|js|jsx|mjs|cjs))\n",
        "Deprecated:        no\n",
        "Recommended:       yes\n",
        "Default setting:   [\"error\",\"always\"]\n"] := by
      rw [inspect_story]
      rfl
    rw [stdout, rows]
    simp only [String.join, List.foldl_cons, List.foldl_nil, String.empty_append, String.append_assoc]

end RuleReport

end LintAdapter
