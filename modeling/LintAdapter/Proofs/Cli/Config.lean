import LintAdapter.Proofs.Cli.Arguments
import LintAdapter.Proofs.Cli.Loaded
import LintAdapter.Proofs.Cli.Source
import LintAdapter.Proofs.Json.Indented
import LintAdapter.Proofs.Synthesis.Failure

namespace LintAdapter

open Json (Value Decoder)

namespace Cli

variable {files : Files.Tree} {world : World} {settings : Settings} {repository : OsString}
  {request catalog : Option OsString} {asked : Request} {registry : Registry}

/-! ### What the command prints -/

def configured? (files : Files.Tree) (settings : Settings) (repository : OsString)
    (request catalog : Option OsString) : Option (Configuration × List String) :=
  (requested? files (requestPath? files request)).bind fun asked =>
    (opened? files (catalog.or settings.catalog)).bind fun registry =>
      (Configuration.create files repository asked registry settings).toOption

def printed? (pretty : Bool) (made : Configuration × List String) : Option String :=
  (documentText made.1 made.2 pretty).toOption.map (· ++ "\n")

theorem gives_loadRequest :
    Run.Gives (loadRequest files request) (requested? files (requestPath? files request)) := by
  rw [loadRequest]
  cases requestPath? files request with
  | none => exact Run.gives_pure _
  | some path => exact (Run.gives_need _ _ _).after_tell _

theorem gives_loadCatalog (files : Files.Tree) (path : OsString) :
    Run.Gives (loadCatalog files path) (Catalog.load files path).toOption := by
  apply (Run.gives_need _ _ _).keeps
  intro entries
  exact (Run.gives_pure _).after_tell _

theorem gives_openRegistry (chosen : Option OsString) :
    Run.Gives (openRegistry files chosen) (opened? files chosen) := by
  cases chosen with
  | none => exact Run.gives_pure _
  | some path =>
      rw [opened?, Option.map_eq_bind]
      apply Run.gives_bind (gives_loadCatalog files path)
      intro entries _
      exact (Run.gives_pure _).after_tell _

theorem gives_configuration :
    Run.Gives (configuration files settings repository request catalog)
      (configured? files settings repository request catalog) := by
  apply Run.gives_bind gives_loadRequest
  intro asked _
  apply Run.gives_bind (gives_openRegistry _)
  intro registry _
  apply Run.Ends.after_tell
  apply (Run.gives_need _ _ _).keeps
  rintro ⟨options, globs⟩
  exact (Run.gives_pure _).after_tell _

theorem prints_printConfiguration (pretty : Bool) (made : Configuration × List String) :
    Run.Prints (printConfiguration made.1 made.2 pretty) (printed? pretty made) := by
  rw [printConfiguration, printed?]
  cases documentText made.1 made.2 pretty with
  | error message => exact Run.gives_fail message []
  | ok text => exact Run.prints_print _

theorem prints_runConfig (pretty : Bool) :
    Run.Prints (runConfig files settings repository request catalog pretty)
      ((configured? files settings repository request catalog).bind (printed? pretty)) :=
  gives_configuration.prints fun made _ => prints_printConfiguration pretty made

theorem config_prints {arguments : List OsString} {invocation : Invocation} {pretty : Bool}
    (reads : read arguments = .ok invocation)
    (configures : invocation.command = .config repository request catalog pretty) :
    (program world arguments).Prints
      ((effectiveSettings world (settingsSource world invocation)).toOption.bind fun settings =>
        (configured? world.files settings repository request catalog).bind (printed? pretty)) := by
  apply program_prints reads
  intro settings
  rw [configures]
  exact prints_runConfig pretty

/-! ### The document -/

structure IsDocument (pretty : Bool) (options : Configuration) (globs : List String)
    (text : String) : Prop where
  printed : text =
    (if pretty then
      (Value.object [("options", options.toValue), ("files", .list (globs.map .text))]).pretty
    else
      (Value.object [("options", options.toValue), ("files", .list (globs.map .text))]).compact) ++
    "\n"
  spells : ∀ tree : Json.Tree, tree.Spells text ↔ tree =
    (Value.object [("options", options.toValue), ("files", .list (globs.map .text))]).tree

theorem documentText_of_isPrintable {options : Configuration} (printable : options.isPrintable)
    (globs : List String) (pretty : Bool) :
    documentText options globs pretty = .ok (if pretty then
      (Value.object [("options", options.toValue), ("files", .list (globs.map .text))]).pretty
    else
      (Value.object [("options", options.toValue), ("files", .list (globs.map .text))]).compact) := by
  rw [documentText, if_pos printable]
  rfl

theorem documentText_of_not_isPrintable {options : Configuration}
    (unprintable : ¬ options.isPrintable) (globs : List String) (pretty : Bool) :
    documentText options globs pretty = .error "path contains invalid UTF-8 characters" := by
  rw [documentText, if_neg unprintable]

theorem isDocument_of_printed? {pretty : Bool} {made : Configuration × List String} {text : String}
    (printed : printed? pretty made = some text) : IsDocument pretty made.1 made.2 text := by
  by_cases printable : made.1.isPrintable
  · rw [printed?, documentText_of_isPrintable printable] at printed
    obtain rfl := Option.some.inj printed
    refine ⟨rfl, fun tree => ⟨Json.Tree.Spells.unique (Value.spells_line _ pretty), ?_⟩⟩
    rintro rfl
    exact Value.spells_line _ pretty
  · rw [printed?, documentText_of_not_isPrintable printable] at printed
    cases printed

theorem directory_of_create {made : Configuration × List String}
    (created : Configuration.create files repository asked registry settings = .ok made) :
    made.1.directory = repository := by
  obtain ⟨-, -, ofDirectory⟩ := (Configuration.create_eq_ok_iff _ _ _ _ _ made.1 made.2).1 created
  exact (Configuration.ofDirectory_cases ofDirectory).1.1

theorem exists_printed?_iff {made : Configuration × List String}
    (created : Configuration.create files repository asked registry settings = .ok made)
    (pretty : Bool) : (∃ text, printed? pretty made = some text) ↔ repository.isText := by
  have printable : made.1.isPrintable = repository.isText := by
    rw [Configuration.isPrintable, directory_of_create created]
  rw [printed?, documentText, printable]
  cases repository.isText <;> simp [Except.toOption]

/-! ### When it is printed -/

/-- What a call finds when it makes options; `own` says when the repository has a configuration of
its own. -/
structure Supplies (own : Prop) (world : World) (source : Source) (repository : OsString)
    (request catalog : Option OsString) (settings : Settings) (asked : Request)
    (registry : Registry) : Prop where
  loads : SettingsFrom world source.path? settings
  asks : RequestFrom world.files request asked
  opens : RegistryFrom world.files (catalog.or settings.catalog) registry
  isDirectory : world.files.isDirectory repository
  enables : (∃ patterns, asked.Selects patterns) ∨ own ∨
    ∃ path, catalog.or settings.catalog = some path

def HoldsOwn (files : Files.Tree) (repository : OsString) : Prop :=
  ∃ name ∈ Configuration.repositoryNames,
    files.holdsFile ((Files.Place.ofPath repository).child name)

/-- A file with the name of a configuration lies in the repository, and the path to it is not too
long. -/
def ReachesOwn (files : Files.Tree) (repository : OsString) : Prop :=
  ∃ name ∈ Configuration.repositoryNames,
    (Files.Path.join repository name).length ≤ 4095 ∧
      files.holdsFile ((Files.Place.ofPath repository).child name)

theorem reachesOwn_iff (isDirectory : files.isDirectory repository) :
    ReachesOwn files repository ↔ ∃ name ∈ Configuration.repositoryNames,
      files.isFile (Files.Path.join repository name) := by
  refine exists_congr fun name => and_congr_right fun member => ?_
  exact (Files.Tree.isFile_join_iff
    (Configuration.isName_of_mem_repositoryNames name member) isDirectory).symm

/-- Without settings, a request and a catalog only a configuration of its own enables rules. -/
theorem Supplies.own_of_defaults {own : Prop}
    (supplies : Supplies own world .defaults repository none none settings asked registry) :
    own := by
  obtain ⟨loads, asks, -, -, enables⟩ := supplies
  cases loads
  cases asks
  rcases enables with ⟨patterns, selects⟩ | own | ⟨path, chosen⟩
  · exact absurd selects (Request.empty.selection?_eq_none_iff.1 rfl patterns)
  · exact own
  · cases chosen

theorem RegistryFrom.exists_entries_iff {chosen : Option OsString}
    (opens : RegistryFrom files chosen registry) :
    (∃ entries, registry = .ok entries) ↔ ∃ path, chosen = some path := by
  cases opens with
  | unavailable => exact iff_of_false nofun nofun
  | file path text entries read accepted => exact iff_of_true ⟨entries, rfl⟩ ⟨path, rfl⟩

theorem supplies_iff {source : Source} :
    Supplies (ReachesOwn world.files repository) world source repository request catalog settings
        asked registry ↔
      effectiveSettings world source = .ok settings ∧
      requested? world.files request = some asked ∧
      opened? world.files (catalog.or settings.catalog) = some registry ∧
      ∃ made, Configuration.create world.files repository asked registry settings = .ok made := by
  rw [effectiveSettings_eq_ok_iff, requested?_eq_some_iff, opened?_eq_some_iff,
    Configuration.exists_create_eq_ok_iff]
  constructor
  · rintro ⟨loads, asks, opens, isDirectory, enables⟩
    refine ⟨loads, asks, opens, isDirectory, fun needs => ?_⟩
    rcases enables with ⟨patterns, selects⟩ | own | chosen
    · exact absurd selects (needs.unselected patterns)
    · obtain ⟨name, member, isFile⟩ := (reachesOwn_iff isDirectory).1 own
      exact absurd isFile (needs.missing name member)
    · exact opens.exists_entries_iff.2 chosen
  · rintro ⟨loads, asks, opens, isDirectory, opened⟩
    -- Were there nothing to say which rules are enabled, a registry that is unavailable is asked.
    refine ⟨loads, asks, opens, isDirectory, ?_⟩
    by_contra neither
    simp only [not_or, not_exists, reachesOwn_iff isDirectory, not_and] at neither
    obtain ⟨unselected, missing, unchosen⟩ := neither
    obtain ⟨path, chosen⟩ := opens.exists_entries_iff.1
      (opened ⟨isDirectory, unselected, missing⟩)
    exact unchosen path chosen

section

variable {arguments : List OsString} {invocation : Invocation} {pretty : Bool}
  (reads : read arguments = .ok invocation)
  (configures : invocation.command = .config repository request catalog pretty)
  (unmounted : ¬ world.files.isFile mountedRequest)

include unmounted

theorem requestPath?_eq : requestPath? world.files request = request := by
  rw [requestPath?, if_neg unmounted, Option.or_none]

include reads configures

theorem config_succeeds_iff :
    (program world arguments).exitCode = 0 ↔ repository.isText ∧ ∃ settings asked registry,
      Supplies (ReachesOwn world.files repository) world (settingsSource world invocation)
        repository request catalog settings asked registry := by
  rw [(config_prints reads configures).succeeds_iff]
  simp only [supplies_iff, configured?, requestPath?_eq unmounted, Option.bind_eq_some_iff,
    toOption_eq_some_iff]
  constructor
  · rintro ⟨text, settings, loads, made, ⟨asked, asks, registry, opens, created⟩, printed⟩
    exact ⟨(exists_printed?_iff created pretty).1 ⟨text, printed⟩, settings, asked, registry, loads,
      asks, opens, made, created⟩
  · rintro ⟨isText, settings, asked, registry, loads, asks, opens, made, created⟩
    obtain ⟨text, printed⟩ := (exists_printed?_iff created pretty).2 isText
    exact ⟨text, settings, loads, made, ⟨asked, asks, registry, opens, created⟩, printed⟩

theorem config_prints_document (isText : repository.isText)
    (supplies : Supplies (ReachesOwn world.files repository) world
      (settingsSource world invocation) repository request catalog settings asked registry) :
    ∃ options globs,
      Configuration.create world.files repository asked registry settings = .ok (options, globs) ∧
      IsDocument pretty options globs (program world arguments).stdout := by
  obtain ⟨loads, asks, opens, ⟨options, globs⟩, created⟩ := supplies_iff.1 supplies
  obtain ⟨text, printed⟩ := (exists_printed?_iff created pretty).2 isText
  refine ⟨options, globs, created, ?_⟩
  rw [(config_prints reads configures).stdout, loads]
  simp only [Except.toOption, Option.bind_some, configured?, requestPath?_eq unmounted, asks, opens,
    created, printed, Option.getD_some]
  exact isDocument_of_printed? printed

end

/-- Options are printed exactly when what is given is accepted, something says which rules are
enabled, and the path of the repository is text. A catalog that is given is used whatever the
settings name, and what they name is not looked at. -/
theorem config_succeeds_exactly (world : World) (arguments : List OsString)
    (invocation : Invocation) (repository : OsString) (request catalog : Option OsString)
    (pretty : Bool) (reads : read arguments = .ok invocation)
    (configures : invocation.command = .config repository request catalog pretty)
    (unmounted : ¬ world.files.isFile mountedRequest) :
    ((program world arguments).exitCode = 0 ↔ repository.isText ∧ ∃ settings asked registry,
      Supplies (ReachesOwn world.files repository) world (settingsSource world invocation)
        repository request catalog settings asked registry) ∧
    (repository.isText → ∀ settings asked registry,
      Supplies (ReachesOwn world.files repository) world (settingsSource world invocation)
        repository request catalog settings asked registry →
      ∃ options globs,
        Configuration.create world.files repository asked registry settings =
          .ok (options, globs) ∧
        IsDocument pretty options globs (program world arguments).stdout) ∧
    ((program world arguments).exitCode ≠ 0 → (program world arguments).stdout = "") ∧
    ∀ path, catalog = some path →
      (∀ source settings named, runWith world invocation source { settings with catalog := named } =
        runWith world invocation source settings) ∧
      ∀ files, world.files.AgreeOn (invocation.settingsPaths world.sharedDirectory? ++
          invocation.command.inputPaths .default) files →
        program { world with files } arguments = { program world arguments with files } := by
  refine ⟨config_succeeds_iff reads configures unmounted, fun isText settings asked registry =>
    config_prints_document reads configures unmounted isText,
    (config_prints reads configures).silent, ?_⟩
  rintro path rfl
  constructor
  · intro source settings named
    rw [runWith, runWith, configures]
    rfl
  · intro files agree
    apply program_config_eq configures reads (agree.mono (by simp))
    intro settings _
    apply agree.mono
    rw [configures]
    exact List.subset_append_right _ _

def semiRecommended : Value :=
  .object [("semi", .object [("docs", .object [("recommended", .bool true)])])]

def catalogOnly : World where
  files := Files.Tree.empty.put ["work", "rules.json"] (.file semiRecommended.compact.toUTF8)
  environment := []
  stdin := .empty

theorem ofText_semiRecommended :
    Catalog.ofText semiRecommended.compact = .ok [⟨"semi", ⟨false, true, none⟩⟩] := by
  have exact : semiRecommended.Exact := by
    refine .object (by simp) (List.forall_mem_singleton.2 ?_)
    refine .object (by simp) (List.forall_mem_singleton.2 ?_)
    exact .object (by simp) (List.forall_mem_singleton.2 (.bool true))
  exact (Catalog.ofText_compact exact (by decide)).trans rfl

theorem config_given_catalog :
    read ["config", "--catalog", "rules.json"] =
      .ok ⟨false, none, .config "." none (some "rules.json") false⟩ ∧
    read ["config"] = .ok ⟨false, none, .config "." none none false⟩ ∧
    ¬ catalogOnly.files.isFile mountedRequest ∧
    (program catalogOnly ["config", "--catalog", "rules.json"]).exitCode = 0 ∧
    (program catalogOnly ["config", "--catalog", "rules.json"]).stdout =
      "\x7b\"options\":\x7b\"cwd\":\".\",\"errorOnUnmatchedPattern\":false," ++
      "\"ignorePatterns\":[\"**/node_modules/**\",\"dist/**\",\"bin/**\",\"build/**\"," ++
      "\"tests/**\",\"vendor/**\",\"**/tsconfig.json\",\"**/.eslintrc*\"," ++
      "\"**/package-lock.json\",\"**/yarn.lock\",\"**/pnpm-lock.yaml\"]," ++
      "\"passOnNoPatterns\":true,\"warnIgnored\":false,\"overrideConfigFile\":true," ++
      "\"baseConfig\":[\x7b\"languageOptions\":\x7b\"ecmaVersion\":\"latest\"," ++
      "\"sourceType\":\"module\",\"parserOptions\":\x7b\"ecmaFeatures\":\x7b\"jsx\":true" ++
      "\x7d\x7d\x7d\x7d,\x7b\"rules\":\x7b\"semi\":\"error\"\x7d\x7d]\x7d," ++
      "\"files\":[\"**/*.ts\",\"**/*.tsx\",\"**/*.js\",\"**/*.jsx\",\"**/*.json\"]\x7d\n" ∧
    (program catalogOnly ["config"]).exitCode ≠ 0 ∧
    (program catalogOnly ["config"]).stdout = "" := by
  have reads : read ["config", "--catalog", "rules.json"] =
      .ok ⟨false, none, .config "." none (some "rules.json") false⟩ := by rfl
  have readsNone : read ["config"] = .ok ⟨false, none, .config "." none none false⟩ := by rfl
  have unmounted : ¬ catalogOnly.files.isFile mountedRequest := Bool.false_ne_true
  have found : catalogOnly.files.read "rules.json" = .ok semiRecommended.compact :=
    Files.Tree.read_of_look_text rfl
  obtain ⟨succeeds, document, -, -⟩ :=
    config_succeeds_exactly catalogOnly _ _ _ _ _ _ reads rfl unmounted
  obtain ⟨succeedsNone, -, silent, -⟩ :=
    config_succeeds_exactly catalogOnly _ _ _ _ _ _ readsNone rfl unmounted
  have isText : ("." : OsString).isText := OsString.isText_ofText "."
  have supplies : Supplies (ReachesOwn catalogOnly.files ".") catalogOnly .defaults "." none
      (some "rules.json") .default .empty (.ok [⟨"semi", ⟨false, true, none⟩⟩]) :=
    ⟨.default, .empty, .file _ _ _ found ofText_semiRecommended, rfl, .inr (.inr ⟨_, rfl⟩)⟩
  have fails : (program catalogOnly ["config"]).exitCode ≠ 0 := by
    intro ended
    obtain ⟨-, settings, asked, registry, supplies⟩ := succeedsNone.1 ended
    obtain ⟨name, member, isFile⟩ := (reachesOwn_iff supplies.isDirectory).1 supplies.own_of_defaults
    have missing : Configuration.repositoryFile? catalogOnly.files "." = none := by rfl
    exact (Configuration.repositoryFile?_eq_none_iff _ _).1 missing name member isFile
  refine ⟨reads, readsNone, unmounted, succeeds.2 ⟨isText, _, _, _, supplies⟩, ?_, fails,
    silent fails⟩
  obtain ⟨options, globs, created, printed, -⟩ := document isText _ _ _ supplies
  rw [Configuration.create_of_recommends rfl rfl
    (Request.empty.selection?_eq_none_iff.1 rfl)] at created
  obtain ⟨rfl, rfl⟩ := Prod.mk.inj (Except.ok.inj created)
  rw [printed]
  decide +kernel

def ownOnly : World where
  files := Files.Tree.empty.put ["work", "eslint.config.js"] (.file .empty)
  environment := []
  stdin := .empty

/-- The name of a directory that is not text. -/
def unwritable : OsString := ⟨[0x72, 0xff]⟩

def unwritableOnly : World where
  files := (Files.Tree.empty.put ["work", unwritable] .directory).put
    ["work", unwritable, "eslint.config.js"] (.file .empty)
  environment := []
  stdin := .empty

theorem not_reachesOwn_hereRepeated (files : Files.Tree) :
    ¬ ReachesOwn files (Files.hereRepeated 2039) := by
  rintro ⟨name, member, short, -⟩
  exact Nat.not_lt.2 short (Configuration.longestPath_lt_join_hereRepeated member)

theorem settingsSource_eq_defaults {invocation : Invocation} {pretty : Bool}
    (configures : invocation.command = .config repository request catalog pretty)
    (ungiven : invocation.settingsPath = none) (unshared : world.sharedDirectory? = none)
    (missing : ∀ name ∈ Source.projectNames,
      ¬ world.files.isFile (Files.Path.join repository name)) :
    settingsSource world invocation = .defaults := by
  have nowhere : (Source.projectPaths repository).find? world.files.isFile = none := by
    rw [List.find?_eq_none, Source.projectPaths, List.forall_mem_map]
    exact missing
  rw [settingsSource, configures, ungiven, unshared]
  dsimp only
  rw [Command.repository, Source.resolve, nowhere]
  rfl

theorem settingsSource_ownOnly {invocation : Invocation}
    (configures : invocation.command = .config (Files.hereRepeated 2039) none none false)
    (ungiven : invocation.settingsPath = none) : settingsSource ownOnly invocation = .defaults := by
  have unheld : ∀ name ∈ Source.projectNames,
      ¬ ownOnly.files.holdsFile (Files.Place.here.child name) := by decide +kernel
  refine settingsSource_eq_defaults configures ungiven rfl fun name member isFile => ?_
  obtain ⟨-, holds⟩ := (Files.Tree.isFile_join_iff (Source.isName_of_mem_projectNames name member)
    (Files.Tree.isDirectory_hereRepeated _ (by decide))).1 isFile
  rw [Files.ofPath_hereRepeated] at holds
  exact unheld name member holds

theorem config_fails_with_own_configuration :
    (read ["config", Files.hereRepeated 2039] =
        .ok ⟨false, none, .config (Files.hereRepeated 2039) none none false⟩ ∧
      ¬ ownOnly.files.isFile mountedRequest ∧
      ¬ ((program ownOnly ["config", Files.hereRepeated 2039]).exitCode = 0 ↔
        ∃ settings asked registry,
          Supplies (HoldsOwn ownOnly.files (Files.hereRepeated 2039)) ownOnly
            (settingsSource ownOnly
              ⟨false, none, .config (Files.hereRepeated 2039) none none false⟩)
            (Files.hereRepeated 2039) none none settings asked registry)) ∧
    read ["config", unwritable] = .ok ⟨false, none, .config unwritable none none false⟩ ∧
    ¬ unwritableOnly.files.isFile mountedRequest ∧
    ¬ ((program unwritableOnly ["config", unwritable]).exitCode = 0 ↔
      ∃ settings asked registry,
        Supplies (HoldsOwn unwritableOnly.files unwritable) unwritableOnly
          (settingsSource unwritableOnly ⟨false, none, .config unwritable none none false⟩)
          unwritable none none settings asked registry) := by
  have reads : read ["config", Files.hereRepeated 2039] =
      .ok ⟨false, none, .config (Files.hereRepeated 2039) none none false⟩ :=
    read_config (Files.hereRepeated_ne_empty 2039) (looksLikeOption_hereRepeated 2039)
  have readsUnwritable : read ["config", unwritable] =
      .ok ⟨false, none, .config unwritable none none false⟩ := by rfl
  have unmounted : ¬ ownOnly.files.isFile mountedRequest := Bool.false_ne_true
  have unmountedUnwritable : ¬ unwritableOnly.files.isFile mountedRequest := Bool.false_ne_true
  refine ⟨⟨reads, unmounted, fun succeeds => ?_⟩, readsUnwritable, unmountedUnwritable,
    fun succeeds => ?_⟩
  · have ended := succeeds.2 ⟨.default, .empty, .unavailable, by
      rw [settingsSource_ownOnly rfl rfl]
      exact .default, .empty, .unavailable, Files.Tree.isDirectory_hereRepeated _ (by decide),
      .inr (.inl ⟨"eslint.config.js", by decide, by rw [Files.ofPath_hereRepeated]; rfl⟩)⟩
    obtain ⟨-, settings, asked, registry, supplies⟩ :=
      (config_succeeds_iff reads rfl unmounted).1 ended
    rw [settingsSource_ownOnly rfl rfl] at supplies
    exact not_reachesOwn_hereRepeated _ supplies.own_of_defaults
  · have ended := succeeds.2 ⟨.default, .empty, .unavailable, .default, .empty, .unavailable, rfl,
      .inr (.inl ⟨"eslint.config.js", by decide, rfl⟩)⟩
    have isText := ((config_succeeds_iff readsUnwritable rfl unmountedUnwritable).1 ended).1
    exact absurd isText (by decide +kernel)

end Cli

end LintAdapter
