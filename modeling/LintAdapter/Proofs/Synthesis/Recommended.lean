import LintAdapter.Json.Printer
import LintAdapter.Proofs.Catalog
import LintAdapter.Proofs.Synthesis.Policy

namespace LintAdapter

open Json (Value Decoder)
open Rule (Parameter Setting)
open Rule.Metadata (IsDeprecatedIn IsRecommendedIn defaultsIn)

structure Rule.IsDefault (given : Value) (setting : Setting) : Prop where
  plain : setting.toValue = .text "error" ↔ defaultsIn given = []
  options : defaultsIn given ≠ [] → setting = .ofParameters (some (defaultsIn given))

theorem Rule.isDefault_iff (given : Value) (setting : Setting) :
    IsDefault given setting ↔ setting = .ofDefaults (defaultsIn given) := by
  cases defaults : defaultsIn given with
  | nil =>
      constructor
      · intro isDefault
        cases setting with
        | enabled => rfl
        | withOptions options => exact nomatch isDefault.plain.2 defaults
      · rintro rfl
        exact ⟨iff_of_true rfl defaults, fun some => absurd defaults some⟩
  | cons parameter rest =>
      have some : defaultsIn given ≠ [] := by
        rw [defaults]
        exact List.cons_ne_nil _ _
      constructor
      · intro isDefault
        rw [isDefault.options some, defaults]
        rfl
      · rintro rfl
        exact ⟨iff_of_false (fun plain => nomatch plain) some, fun _ => by rw [defaults]; rfl⟩

theorem Rule.optionsOf_ne_nil {parameters : List Parameter} (some : parameters ≠ []) :
    Setting.optionsOf parameters ≠ [] := by
  obtain ⟨parameter, rest, rfl⟩ := List.exists_cons_of_ne_nil some
  simp only [Setting.optionsOf]
  split_ifs with named
  · -- Without named parameters the first one is positional.
    have positional : parameter.isUnnamed := by
      simp only [List.isEmpty_iff, List.map_eq_nil_iff, List.filter_eq_nil_iff] at named
      simpa using named parameter List.mem_cons_self
    rw [List.filter_cons_of_pos positional]
    exact List.cons_ne_nil _ _
  · exact List.append_ne_nil_of_right_ne_nil _ (List.cons_ne_nil _ [])

theorem Rule.compact_ofDefaults_ne (parameters : List Parameter) :
    (Setting.ofDefaults parameters).toValue.compact ≠ "[\"error\"]" := by
  intro bare
  have chars : (Setting.ofDefaults parameters).toValue.chars =
      '[' :: Json.escapedString Setting.severity.toList ++ [']'] := by
    rw [← String.toList_ofList (l := Value.chars _), ← Value.compact, bare]
    rfl
  rw [Setting.ofDefaults] at chars
  split_ifs at chars with empty
  · rw [Setting.toValue, Value.chars] at chars
    cases chars
  · have options := optionsOf_ne_nil (mt List.isEmpty_iff.2 empty)
    obtain ⟨option, more, equal⟩ := List.exists_cons_of_ne_nil options
    rw [Setting.ofParameters, equal, Setting.toValue, Value.chars, Value.chars] at chars
    have rest := List.append_cancel_left chars
    rw [Value.itemChars] at rest
    cases rest

namespace Configuration

theorem mem_recommendedRules (entries : List Catalog.Entry) (id : String) (setting : Setting) :
    (id, setting) ∈ recommendedRules entries ↔ ∃ entry ∈ entries, entry.id = id ∧
      isRecommended entry ∧ setting = entry.metadata.defaultSetting := by
  simp only [recommendedRules, List.mem_map, List.mem_filter, Prod.mk.injEq]
  grind

theorem nodup_recommendedRules {entries : List Catalog.Entry}
    (nodup : (entries.map Catalog.Entry.id).Nodup) :
    ((recommendedRules entries).map Prod.fst).Nodup := by
  rw [recommendedRules, List.map_map]
  exact (List.filter_sublist.map Catalog.Entry.id).nodup nodup

theorem lastValue?_recommendedRules {raw : List (String × Value)} {entries : List Catalog.Entry}
    (converted : List.Forall₂ Catalog.Converts
      (Json.Members.merge (Value.mergedMembers raw)) entries) (id : String) (setting : Setting) :
    lastValue? (recommendedRules entries) id = some setting ↔
      ∃ given, lastValue? raw id = some given ∧ Rule.isUnsupported id = false ∧
        ¬ IsDeprecatedIn given ∧ IsRecommendedIn given ∧ Rule.IsDefault given setting := by
  have nodup : (entries.map Catalog.Entry.id).Nodup := by
    rw [Catalog.map_id_eq converted]
    exact Json.Members.nodup_merge _
  rw [lastValue?_eq_some_iff_mem (nodup_recommendedRules nodup), mem_recommendedRules]
  constructor
  · rintro ⟨entry, member, rfl, recommends, rfl⟩
    obtain ⟨given, last, read⟩ := (Catalog.mem_entries_ofText converted entry).1 member
    obtain ⟨deprecated, recommended, defaults⟩ := Rule.Metadata.ofValue_merged read
    simp only [isRecommended, Bool.and_eq_true, Bool.not_eq_true'] at recommends
    obtain ⟨⟨supported, current⟩, tier⟩ := recommends
    refine ⟨given, last, supported, ?_, recommended.1 tier, ?_⟩
    · rw [← deprecated, current]
      exact Bool.false_ne_true
    · rw [Rule.isDefault_iff, ← defaults]
      rfl
  · rintro ⟨given, last, supported, current, tier, isDefault⟩
    obtain ⟨metadata, member, read⟩ := Catalog.exists_entry_ofText converted last
    obtain ⟨deprecated, recommended, defaults⟩ := Rule.Metadata.ofValue_merged read
    refine ⟨⟨id, metadata⟩, member, rfl, ?_, ?_⟩
    · have notDeprecated : metadata.deprecated = false := by
        rw [← Bool.not_eq_true, deprecated]
        exact current
      rw [isRecommended, supported, notDeprecated, recommended.2 tier]
      rfl
    · rw [(Rule.isDefault_iff given setting).1 isDefault, ← defaults]
      rfl

/-- Without a selection and an own configuration of the repository, the rules that an accepted
catalog text recommends are enabled, and no others. The plain severity is the setting of the rules
without default parameters, and no setting is the bare list of the severity. -/
theorem create_enables_recommended (files : Files.Tree) (repository : OsString) (request : Request)
    (settings : Settings) (text : String) (entries : List Catalog.Entry)
    (accepted : Catalog.ofText text = .ok entries) (isDirectory : files.isDirectory repository)
    (missing : repositoryFile? files repository = none)
    (unselected : ∀ patterns, ¬ request.Selects patterns) :
    ∃ raw configuration,
      Decoder.document Decoder.rawValue text = .ok (.object raw) ∧
      create files repository request (.ok entries) settings =
        .ok (configuration, filesFor request) ∧
      (∀ id, id ∈ configuration.rules.map Prod.fst ↔
        ∃ given, lastValue? raw id = some given ∧ Rule.isUnsupported id = false ∧
          ¬ IsDeprecatedIn given ∧ IsRecommendedIn given) ∧
      (∀ id setting, (id, setting) ∈ configuration.rules →
        ∃ given, lastValue? raw id = some given ∧ Rule.IsDefault given setting) ∧
      ∀ id setting, (id, setting) ∈ configuration.rules →
        setting.toValue.compact ≠ "[\"error\"]" := by
  obtain ⟨raw, object, converted⟩ := (Catalog.ofText_eq_ok_iff text entries).1 accepted
  have selection := request.selection?_eq_none_iff.2 unselected
  let configuration : Configuration := {
    directory := repository
    ignorePatterns := ignores settings.exclude
    repositoryFile := none
    blocks := some (Block.ofRules (recommendedRules entries))
    origin := .recommended }
  have enabled (id : String) (setting : Setting) : (id, setting) ∈ configuration.rules ↔
      ∃ given, lastValue? raw id = some given ∧ Rule.isUnsupported id = false ∧
        ¬ IsDeprecatedIn given ∧ IsRecommendedIn given ∧ Rule.IsDefault given setting :=
    (mem_rules_iff rfl id setting).trans (lastValue?_recommendedRules converted id setting)
  refine ⟨raw, configuration, object, ?_, ?_, ?_, ?_⟩
  · rw [create, if_pos isDirectory, missing, selection]
    rfl
  · intro id
    constructor
    · intro listed
      obtain ⟨⟨_, setting⟩, member, rfl⟩ := List.mem_map.1 listed
      obtain ⟨given, last, supported, current, tier, -⟩ := (enabled _ setting).1 member
      exact ⟨given, last, supported, current, tier⟩
    · rintro ⟨given, last, supported, current, tier⟩
      exact List.mem_map_of_mem ((enabled id (.ofDefaults (defaultsIn given))).2
        ⟨given, last, supported, current, tier, (Rule.isDefault_iff given _).2 rfl⟩)
  · intro id setting member
    obtain ⟨given, last, -, -, -, isDefault⟩ := (enabled id setting).1 member
    exact ⟨given, last, isDefault⟩
  · intro id setting member
    obtain ⟨given, -, -, -, -, isDefault⟩ := (enabled id setting).1 member
    rw [(Rule.isDefault_iff given setting).1 isDefault]
    exact Rule.compact_ofDefaults_ne _

theorem create_enables_only_rule :
    ∃ configuration,
      create .empty "." .empty (.ok [⟨"semi", ⟨false, true, none⟩⟩]) .default =
        .ok (configuration, defaultFiles) ∧
      "semi" ∈ configuration.rules.map Prod.fst := by
  let text := "\x7b\"semi\":\x7b\"docs\":\x7b\"recommended\":true\x7d\x7d\x7d"
  have tokens : Json.Token.ofText text.toList = [
      .openObject, .string ("semi".toList.map .plain), .colon,
      .openObject, .string ("docs".toList.map .plain), .colon,
      .openObject, .string ("recommended".toList.map .plain), .colon, .bool true,
      .closeObject, .closeObject, .closeObject] := by
    decide +kernel
  have tree : Json.Tree.ofText text.toList =
      (.object [("semi".toList.map .plain, .object [("docs".toList.map .plain,
        .object [("recommended".toList.map .plain, .bool true)] none)] none)] none, false) := by
    rw [Json.Tree.ofText, tokens]
    simp only [Json.Tree.build, Json.Tree.step, Json.Tree.start, Json.Tree.startName,
      Json.Tree.place, Json.Tree.finish, List.reverse_cons, List.reverse_nil, List.nil_append,
      List.isEmpty_nil, Bool.not_true]
  have object : Decoder.document Decoder.rawValue text =
      .ok (.object [("semi", .object [("docs", .object [("recommended", .bool true)])])]) :=
    (Decoder.document_eq_ok_iff _ _ _).2 ⟨_, tree, rfl⟩
  have accepted : Catalog.ofText text = .ok [⟨"semi", ⟨false, true, none⟩⟩] :=
    (Catalog.ofText_eq_ok_iff _ _).2 ⟨_, object, .cons ⟨rfl, rfl⟩ .nil⟩
  obtain ⟨raw, configuration, same, created, enabled, -⟩ :=
    create_enables_recommended .empty "." .empty .default text _ accepted rfl rfl
      (Request.empty.selection?_eq_none_iff.1 rfl)
  rw [object] at same
  cases same
  refine ⟨configuration, created, (enabled "semi").2 ⟨_, rfl, by decide +kernel, ?_, ?_⟩⟩
  · rintro ⟨value, part, -⟩
    exact nomatch part
  · exact ⟨_, _, rfl, rfl, .yes⟩

end Configuration

end LintAdapter
