import LintAdapter.Proofs.Files.Changes
import LintAdapter.Proofs.Files.LongPath
import LintAdapter.Proofs.Synthesis.Blocks
import LintAdapter.Synthesis.Configuration
import Mathlib.Data.List.Find

namespace LintAdapter

open Json (Value)
open Rule (Setting)

/-! ### What the platform selects -/

namespace Request

inductive IsTool (tools : List Section) (tool : Section) : Prop
  | named (before after : List Section) (split : tools = before ++ tool :: after)
      (name : tool.name = "eslint") (earlier : ∀ other ∈ before, other.name ≠ "eslint")
  | first (rest : List Section) (head : tools = tool :: rest)
      (others : ∀ other ∈ tools, other.name ≠ "eslint")

def Selects (request : Request) (patterns : List Pattern) : Prop :=
  patterns ≠ [] ∧ ∃ tools tool, request.tools = some tools ∧ IsTool tools tool ∧
    tool.patterns = some patterns

theorem nonempty?_eq_some_iff {α : Type} (items : Option (List α)) (found : List α) :
    nonempty? items = some found ↔ found ≠ [] ∧ items = some found := by
  match items with
  | none => simp [nonempty?]
  | some [] =>
      simp only [nonempty?, reduceCtorEq, Option.some.injEq, false_iff, not_and]
      exact fun notEmpty empty => notEmpty empty.symm
  | some (a :: rest) =>
      simp only [nonempty?, Option.some.injEq]
      constructor
      · rintro rfl
        exact ⟨List.cons_ne_nil a rest, rfl⟩
      · exact And.right

theorem tool?_eq_some_iff (request : Request) (tool : Section) :
    request.tool? = some tool ↔ ∃ tools, request.tools = some tools ∧ IsTool tools tool := by
  have named (other : Section) : decide (other.name = toolName) ↔ other.name = "eslint" :=
    decide_eq_true_iff
  rw [tool?]
  cases request.tools with
  | none => simp
  | some tools =>
      simp only [Option.some.injEq, exists_eq_left', Option.or_eq_some_iff]
      constructor
      · rintro (found | ⟨missing, head⟩)
        · obtain ⟨name, before, after, split, earlier⟩ := List.find?_eq_some_iff_append.1 found
          refine .named before after split ((named tool).1 name) fun other member => ?_
          simpa only [Bool.not_eq_true', ← Bool.not_eq_true, named] using earlier other member
        · obtain ⟨rest, head⟩ := List.head?_eq_some_iff.1 head
          exact .first rest head fun other member name =>
            List.find?_eq_none.1 missing other member ((named other).2 name)
      · rintro (⟨before, after, split, name, earlier⟩ | ⟨rest, head, others⟩)
        · refine .inl (List.find?_eq_some_iff_append.2
            ⟨(named tool).2 name, before, after, split, ?_⟩)
          intro other member
          simpa only [Bool.not_eq_true', ← Bool.not_eq_true, named] using earlier other member
        · refine .inr ⟨List.find?_eq_none.2 fun other member name => ?_,
            by rw [head, List.head?_cons]⟩
          exact others other member ((named other).1 name)

theorem selection?_eq_some_iff (request : Request) (patterns : List Pattern) :
    request.selection? = some patterns ↔ request.Selects patterns := by
  rw [selection?, nonempty?_eq_some_iff, Selects, Option.bind_eq_some_iff]
  simp only [tool?_eq_some_iff]
  grind

theorem selection?_eq_none_iff (request : Request) :
    request.selection? = none ↔ ∀ patterns, ¬ request.Selects patterns := by
  simp only [Option.eq_none_iff_forall_ne_some, ← selection?_eq_some_iff, ne_eq]

end Request

namespace Configuration

/-! ### The repository's own configuration -/

theorem isName_of_mem_repositoryNames :
    ∀ name ∈ repositoryNames, Files.Path.IsName (name : OsString) := by
  decide +kernel

def firstOwn? (files : Files.Tree) (repository : OsString) : Option String :=
  repositoryNames.find? fun name =>
    (Files.Path.join repository name).length ≤ Files.longestPath &&
      files.holdsFile ((Files.Place.ofPath repository).child name)

theorem repositoryFile?_eq {files : Files.Tree} {repository : OsString}
    (isDirectory : files.isDirectory repository) :
    repositoryFile? files repository = firstOwn? files repository := by
  refine List.find?_congr fun name member => ?_
  have isName := isName_of_mem_repositoryNames name member
  rw [Bool.eq_iff_iff, Files.Tree.isFile_join_iff isName isDirectory, Bool.and_eq_true,
    decide_eq_true_eq]

/-! ### Results -/

/-- What a configuration and the globs of its files are, by the request and the repository's own
configuration. -/
structure FollowsPolicy (own : Option String) (repository : OsString) (request : Request)
    (exclude : List String) (configuration : Configuration) (globs : List String) : Prop where
  selection : configuration.origin = .selection ↔ ∃ patterns, request.Selects patterns
  delegated : configuration.origin = .delegated ↔
    (∀ patterns, ¬ request.Selects patterns) ∧ ∃ name, own = some name
  recommended : configuration.origin = .recommended ↔
    (∀ patterns, ¬ request.Selects patterns) ∧ own = none
  override : configuration.toValue.get? "overrideConfigFile" =
    some ((own.map Value.text).getD (.bool true))
  base : configuration.toValue.get? "baseConfig" = none ↔ configuration.origin = .delegated
  selected : ∀ patterns, request.Selects patterns → ∀ id setting,
    (id, setting) ∈ configuration.rules ↔ ∃ before pattern after,
      patterns = before ++ pattern :: after ∧ Rule.ofPlatformId pattern.id = id ∧
        Setting.ofParameters pattern.parameters = setting ∧
        ∀ later ∈ after, Rule.ofPlatformId later.id ≠ id
  listed : ∀ files, request.files = some files → files ≠ [] → globs = files
  unlisted : request.files = none ∨ request.files = some [] → globs = defaultFiles
  directory : configuration.directory = repository
  ignored : configuration.ignorePatterns = ignores exclude

theorem get?_overrideConfigFile (configuration : Configuration) :
    configuration.toValue.get? "overrideConfigFile" =
      some (overrideValue configuration.repositoryFile) := by
  simp [toValue, Value.get?, lookup_cons_eq_ite]

theorem get?_baseConfig (configuration : Configuration) :
    configuration.toValue.get? "baseConfig" =
      configuration.blocks.map fun blocks => .list (blocks.map (·.toValue)) := by
  cases blocks : configuration.blocks with
  | none => simp [toValue, Value.get?, Value.optionalMember, lookup_cons_eq_ite, blocks]
  | some _ => simp [toValue, Value.get?, Value.optionalMember, lookup_cons_eq_ite, blocks]

theorem mem_rules_iff {configuration : Configuration} {settings : RuleSettings}
    (blocks : configuration.blocks = some (Block.ofRules settings)) (id : String)
    (setting : Setting) :
    (id, setting) ∈ configuration.rules ↔ lastValue? settings id = some setting := by
  rw [rules, blocks, Option.getD_some, Block.mem_flatMap_enabled_ofRules]

theorem mem_ids_rules_iff {configuration : Configuration} {settings : RuleSettings}
    (blocks : configuration.blocks = some (Block.ofRules settings)) (id : String) :
    id ∈ configuration.rules.map Prod.fst ↔ id ∈ settings.map Prod.fst := by
  rw [rules, blocks, Option.getD_some, Block.mem_ids_ofRules]

theorem lastValue?_selectedRules (patterns : List Pattern) (id : String) (setting : Setting) :
    lastValue? (selectedRules patterns) id = some setting ↔ ∃ before pattern after,
      patterns = before ++ pattern :: after ∧ Rule.ofPlatformId pattern.id = id ∧
        Setting.ofParameters pattern.parameters = setting ∧
        ∀ later ∈ after, Rule.ofPlatformId later.id ≠ id := by
  rw [lastValue?_eq_some_iff, selectedRules]
  constructor
  · rintro ⟨before, after, split, absent⟩
    obtain ⟨first, rest, rfl, rfl, others⟩ := List.map_eq_append_iff.1 split
    obtain ⟨pattern, later, rfl, named, rfl⟩ := List.map_eq_cons_iff.1 others
    obtain ⟨rfl, rfl⟩ := Prod.mk.inj named
    refine ⟨first, pattern, later, rfl, rfl, rfl, fun other member same => absent ?_⟩
    exact List.mem_map.2 ⟨_, List.mem_map_of_mem member, same⟩
  · rintro ⟨before, pattern, after, rfl, rfl, rfl, absent⟩
    refine ⟨before.map _, after.map _, by rw [List.map_append, List.map_cons]; rfl, ?_⟩
    simpa using absent

theorem filesFor_listed {request : Request} {files : List String}
    (listed : request.files = some files) (notEmpty : files ≠ []) : filesFor request = files := by
  have selected : request.fileSelection? = some files := by
    rw [Request.fileSelection?, Request.nonempty?_eq_some_iff]
    exact ⟨notEmpty, listed⟩
  rw [filesFor, selected, Option.getD_some]

theorem filesFor_unlisted {request : Request}
    (unlisted : request.files = none ∨ request.files = some []) :
    filesFor request = defaultFiles := by
  rcases unlisted with files | files <;> rw [filesFor, Request.fileSelection?, files] <;> rfl

theorem create_eq_ok_iff (files : Files.Tree) (repository : OsString) (request : Request)
    (registry : Registry) (settings : Settings) (configuration : Configuration)
    (globs : List String) :
    create files repository request registry settings = .ok (configuration, globs) ↔
      files.isDirectory repository ∧ globs = filesFor request ∧
        ofDirectory repository (firstOwn? files repository) settings.exclude request.selection?
          registry = .ok configuration := by
  rw [create]
  split_ifs with isDirectory
  · rw [repositoryFile?_eq isDirectory]
    cases ofDirectory repository (firstOwn? files repository) settings.exclude request.selection?
      registry with
    | error failure => simp [bind, Except.bind]
    | ok made => simp [bind, Except.bind, pure, Except.pure, isDirectory, eq_comm, and_comm]
  · simp [isDirectory]

theorem create_of_selects {files : Files.Tree} {repository : OsString} {request : Request}
    {patterns : List Pattern} (isDirectory : files.isDirectory repository)
    (selects : request.Selects patterns) (registry : Registry) (settings : Settings) :
    create files repository request registry settings = .ok ({
      directory := repository
      ignorePatterns := ignores settings.exclude
      repositoryFile := repositoryFile? files repository
      blocks := some (Block.ofRules (selectedRules patterns))
      origin := .selection }, filesFor request) := by
  rw [create, if_pos isDirectory, (request.selection?_eq_some_iff patterns).2 selects]
  rfl

theorem create_of_recommends {files : Files.Tree} {repository : OsString} {request : Request}
    (isDirectory : files.isDirectory repository)
    (missing : repositoryFile? files repository = none)
    (unselected : ∀ patterns, ¬ request.Selects patterns) (entries : List Catalog.Entry)
    (settings : Settings) :
    create files repository request (.ok entries) settings = .ok ({
      directory := repository
      ignorePatterns := ignores settings.exclude
      repositoryFile := none
      blocks := some (Block.ofRules (recommendedRules entries))
      origin := .recommended }, filesFor request) := by
  rw [create, if_pos isDirectory, missing, request.selection?_eq_none_iff.2 unselected]
  rfl

theorem ofDirectory_cases {repository : OsString} {own : Option String} {exclude : List String}
    {selection : Option (List Pattern)} {registry : Registry} {configuration : Configuration}
    (made : ofDirectory repository own exclude selection registry = .ok configuration) :
    (configuration.directory = repository ∧ configuration.ignorePatterns = ignores exclude ∧
      configuration.repositoryFile = own) ∧
    ((∃ patterns, selection = some patterns ∧ configuration.origin = .selection ∧
        configuration.blocks = some (Block.ofRules (selectedRules patterns))) ∨
      (selection = none ∧ (∃ name, own = some name) ∧ configuration.origin = .delegated ∧
        configuration.blocks = none) ∨
      (selection = none ∧ own = none ∧ configuration.origin = .recommended ∧
        ∃ entries, registry = .ok entries ∧
          configuration.blocks = some (Block.ofRules (recommendedRules entries)))) := by
  cases selection with
  | some patterns =>
      rw [ofDirectory] at made
      cases made
      exact ⟨⟨rfl, rfl, rfl⟩, .inl ⟨patterns, rfl, rfl, rfl⟩⟩
  | none =>
      cases own with
      | some name =>
          rw [ofDirectory] at made
          cases made
          exact ⟨⟨rfl, rfl, rfl⟩, .inr (.inl ⟨rfl, ⟨name, rfl⟩, rfl, rfl⟩)⟩
      | none =>
          cases registry with
          | error failure => exact nomatch made
          | ok entries =>
              rw [ofDirectory] at made
              cases made
              exact ⟨⟨rfl, rfl, rfl⟩, .inr (.inr ⟨rfl, rfl, rfl, entries, rfl, rfl⟩)⟩

theorem ofDirectory_origin {repository : OsString} {own : Option String} {exclude : List String}
    {selection : Option (List Pattern)} {registry : Registry} {configuration : Configuration}
    (made : ofDirectory repository own exclude selection registry = .ok configuration) :
    (configuration.origin = .selection ↔ ∃ patterns, selection = some patterns) ∧
    (configuration.origin = .delegated ↔ selection = none ∧ ∃ name, own = some name) ∧
    (configuration.origin = .recommended ↔ selection = none ∧ own = none) ∧
    (configuration.blocks = none ↔ configuration.origin = .delegated) := by
  obtain ⟨-, ⟨patterns, rfl, origin, blocks⟩ | ⟨rfl, ⟨name, rfl⟩, origin, blocks⟩ |
    ⟨rfl, rfl, origin, entries, -, blocks⟩⟩ := ofDirectory_cases made
  all_goals simp [origin, blocks]

theorem mem_rules_of_selection {repository : OsString} {own : Option String} {exclude : List String}
    {patterns : List Pattern} {registry : Registry} {configuration : Configuration}
    (made : ofDirectory repository own exclude (some patterns) registry = .ok configuration)
    (id : String) (setting : Setting) :
    (id, setting) ∈ configuration.rules ↔ ∃ before pattern after,
      patterns = before ++ pattern :: after ∧ Rule.ofPlatformId pattern.id = id ∧
        Setting.ofParameters pattern.parameters = setting ∧
        ∀ later ∈ after, Rule.ofPlatformId later.id ≠ id := by
  obtain ⟨-, ⟨_, same, -, blocks⟩ | ⟨missing, -⟩ | ⟨missing, -⟩⟩ := ofDirectory_cases made
  · cases same
    rw [mem_rules_iff blocks, lastValue?_selectedRules]
  · exact nomatch missing
  · exact nomatch missing

/-- A configuration that is made follows the policy, whatever steps made the files. The own
configuration of the repository is a file that some step wrote and no later one removed. -/
theorem create_follows_policy (working : List OsString) (changes : List Files.Change)
    (repository : OsString) (request : Request) (registry : Registry) (settings : Settings)
    (configuration : Configuration) (globs : List String)
    (created : create (Files.Tree.after working changes) repository request registry settings =
      .ok (configuration, globs)) :
    FollowsPolicy (firstOwn? (Files.Tree.after working changes) repository) repository request
      settings.exclude configuration globs ∧
    ∀ name, (Files.Tree.after working changes).holdsFile
        ((Files.Place.ofPath repository).child name) ↔
      Files.Tree.Written working changes
        (Files.Tree.namesAt working ((Files.Place.ofPath repository).child name)) := by
  refine ⟨?_, fun name => ?_⟩
  · obtain ⟨-, rfl, made⟩ := (create_eq_ok_iff _ _ _ _ _ _ _).1 created
    obtain ⟨⟨directory, ignored, own⟩, -⟩ := ofDirectory_cases made
    obtain ⟨selection, delegated, recommended, base⟩ := ofDirectory_origin made
    simp only [Request.selection?_eq_some_iff] at selection
    rw [Request.selection?_eq_none_iff] at delegated recommended
    refine ⟨selection, delegated, recommended, ?_, ?_, ?_, fun _ => filesFor_listed,
      filesFor_unlisted, directory, ignored⟩
    · rw [get?_overrideConfigFile, own]
      cases firstOwn? (Files.Tree.after working changes) repository <;> rfl
    · rw [get?_baseConfig, Option.map_eq_none_iff, base]
    · intro patterns selects
      rw [(request.selection?_eq_some_iff patterns).2 selects] at made
      exact mem_rules_of_selection made
  · rw [Files.Tree.holdsFile, Files.Tree.locate_after, Files.Tree.hasFile_after_iff]

theorem own_configuration_follows_policy :
    ∃ configuration, create (.after ["work"] [.write (.ofPath "./eslint.config.js") .empty]) "."
        .empty .unavailable .default = .ok (configuration, defaultFiles) ∧
      configuration.origin = .delegated ∧
      configuration.toValue.get? "overrideConfigFile" = some (.text "eslint.config.js") := by
  refine ⟨_, rfl, ?_⟩
  have policy := (create_follows_policy ["work"] [.write (.ofPath "./eslint.config.js") .empty] "."
    .empty .unavailable .default _ _ rfl).1
  refine ⟨policy.delegated.2 ⟨?_, "eslint.config.js", rfl⟩, policy.override⟩
  exact Request.empty.selection?_eq_none_iff.1 rfl

/-! ### A path that is too long -/

theorem longestPath_lt_join_hereRepeated {name : String} (member : name ∈ repositoryNames) :
    Files.longestPath < (Files.Path.join (Files.hereRepeated 2039) name).length := by
  have long : ∀ name ∈ repositoryNames, 16 ≤ (OsString.ofText name).length := by decide +kernel
  have := long name member
  rw [Files.Path.length_join_hereRepeated _ (isName_of_mem_repositoryNames name member)]
  change 4095 < 4078 + 2 + _
  omega

theorem own_configuration_beyond_longest_path :
    ∃ configuration globs,
      create (.after ["work"] [.write (.ofPath "eslint.config.js") .empty])
        (Files.hereRepeated 2039) .empty (.ok []) .default = .ok (configuration, globs) ∧
      ¬ (configuration.origin = .delegated ↔
        (∀ patterns, ¬ Request.empty.Selects patterns) ∧ ∃ name ∈ repositoryNames,
          Files.Tree.holdsFile (.after ["work"] [.write (.ofPath "eslint.config.js") .empty])
            ((Files.Place.ofPath (Files.hereRepeated 2039)).child name)) := by
  have missing : firstOwn? (.after ["work"] [.write (.ofPath "eslint.config.js") .empty])
      (Files.hereRepeated 2039) = none := by
    rw [firstOwn?, List.find?_eq_none]
    intro name member
    rw [decide_eq_false (Nat.not_le.2 (longestPath_lt_join_hereRepeated member)), Bool.false_and]
    exact Bool.false_ne_true
  refine ⟨_, _, (create_eq_ok_iff _ _ _ _ _ _ _).2
    ⟨Files.Tree.isDirectory_hereRepeated _ (by decide), rfl, by rw [missing]; rfl⟩, fun delegated => ?_⟩
  refine Origin.noConfusion (delegated.2 ⟨Request.empty.selection?_eq_none_iff.1 rfl,
    "eslint.config.js", by decide, ?_⟩)
  rw [Files.ofPath_hereRepeated]
  rfl

end Configuration

end LintAdapter
