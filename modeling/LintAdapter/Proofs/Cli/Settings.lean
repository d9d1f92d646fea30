import LintAdapter.Proofs.Cli.Config
import LintAdapter.Proofs.Files.Parent
import LintAdapter.Proofs.Settings

namespace LintAdapter

open Files (Tree Place)
open Files.Path (join parts parent?)
open Settings (Describes Environment)

theorem Files.Tree.exists_look_of_read {files : Tree} {path : OsString} {text : String}
    (read : files.read path = .ok text) : ∃ content, files.look path = .ok (.file content) := by
  rw [Tree.read] at read
  split at read
  · cases read
  · cases read
  · exact ⟨_, ‹_›⟩

namespace Cli

inductive Command.LooksIn : Command → OsString → Prop
  | config (repository : OsString) (request catalog : Option OsString) (pretty : Bool) :
      LooksIn (.config repository request catalog pretty) repository
  | convert (input : Option OsString) (format : Format) : LooksIn (.convert input format) "."
  | rule (id : String) : LooksIn (.rule id) "."

inductive Written (files : Tree) : Option OsString → Settings → Prop
  | nothing : Written files none ⟨false, false, none, []⟩
  | file {path : OsString} {text : String} {members : List (String × Toml.Value)}
      {settings : Settings} (read : files.read path = .ok text)
      (document : Toml.parse? text = some members) (describes : Describes members settings) :
      Written files (some path) settings

inductive Unusable (files : Tree) (path : OsString) : Prop
  | unread {failure : Files.Failure} (read : files.read path = .error failure)
  | noDocument {text : String} (read : files.read path = .ok text)
      (refused : Toml.parse? text = none)
  | noSettings {text : String} {members : List (String × Toml.Value)}
      (read : files.read path = .ok text) (document : Toml.parse? text = some members)
      (refused : ∀ settings, ¬ Describes members settings)

/-- The catalog in effect: an absolute path as it is, and a relative one from the directory that
holds the settings file. -/
inductive CatalogInEffect (path : Option OsString) : Option OsString → Option OsString → Prop
  | absent : CatalogInEffect path none none
  | absolute {catalog : OsString} (fromRoot : catalog.bytes.head? = some '/'.toUInt8) :
      CatalogInEffect path (some catalog) (some catalog)
  | relative {file directory catalog : OsString} (taken : path = some file)
      (notFromRoot : catalog.bytes.head? ≠ some '/'.toUInt8) (parent : parent? file = some directory)
      (leads : Place.ofPath (join directory catalog) =
        (parts catalog).foldl Place.step (Place.ofPath file).parent) :
      CatalogInEffect path (some catalog) (some (join directory catalog))

structure InEffect (environment : Environment) (path : Option OsString)
    (written settings : Settings) : Prop where
  debug : settings.debug ↔ written.debug ∨ environment.lookup "DEBUG" = some "true"
  suggestions : settings.suggestions ↔
    written.suggestions ∨ environment.lookup "SUGGESTIONS" = some "true"
  exclude : settings.exclude = written.exclude
  catalog : CatalogInEffect path written.catalog settings.catalog

theorem isOn_iff (environment : Environment) (name : String) :
    Settings.isOn environment name ↔ environment.lookup name = some "true" := by
  rw [Settings.isOn, beq_iff_eq]

theorem rebase_eq (settings : Settings) (path : OsString) :
    settings.rebase path = { settings with catalog := (settings.rebase path).catalog } := by
  rw [Settings.rebase]
  split <;> rfl

theorem catalogInEffect_rebase {files : Tree} {path : OsString} {text : String}
    (read : files.read path = .ok text) (settings : Settings) :
    CatalogInEffect (some path) settings.catalog (settings.rebase path).catalog := by
  -- A file that was read lies in a directory, so its path has one.
  obtain ⟨content, found⟩ := Tree.exists_look_of_read read
  obtain ⟨directory, parent, leads⟩ := Tree.exists_parent?_of_look found
  cases named : settings.catalog with
  | none =>
      have based : (settings.rebase path).catalog = none := by simp [Settings.rebase, named]
      rw [based]
      exact .absent
  | some catalog =>
      have based : (settings.rebase path).catalog = some (join directory catalog) := by
        rw [Settings.rebase, named, parent]
      rw [based]
      cases fromRoot : Files.Path.isAbsolute catalog with
      | true =>
          have kept : join directory catalog = catalog := by rw [join, fromRoot]; rfl
          rw [kept]
          exact .absolute (beq_iff_eq.1 fromRoot)
      | false =>
          refine .relative rfl (beq_eq_false_iff_ne.1 fromRoot) parent ?_
          rw [Place.ofPath_join directory catalog fromRoot, leads]

theorem inEffect_overlay (environment : Environment) {path : Option OsString} {written : Settings}
    {catalog : Option OsString} (inEffect : CatalogInEffect path written.catalog catalog) :
    InEffect environment path written ({ written with catalog }.overlay environment) where
  debug := by
    rw [← isOn_iff]
    exact Bool.or_eq_true_iff
  suggestions := by
    rw [← isOn_iff]
    exact Bool.or_eq_true_iff
  exclude := rfl
  catalog := inEffect

theorem inEffect_of_settingsFrom {world : World} {path : Option OsString} {settings : Settings}
    (loaded : SettingsFrom world path settings) :
    ∃ written, Written world.files path written ∧
      InEffect world.environment path written settings := by
  cases loaded with
  | default => exact ⟨.default, .nothing, inEffect_overlay world.environment .absent⟩
  | file path text written read accepted =>
      obtain ⟨members, document, describes⟩ := (Settings.ofText_eq_ok_iff text written).1 accepted
      refine ⟨written, .file read document describes, ?_⟩
      rw [rebase_eq]
      exact inEffect_overlay world.environment (catalogInEffect_rebase read written)

theorem unusable_of_refused {world : World} {source : Source} {refusal : Settings.Refusal}
    (refused : effectiveSettings world source = .error refusal) :
    ∃ path, source.path? = some path ∧ Unusable world.files path := by
  have unsettled (settings : Settings) : ¬ SettingsFrom world source.path? settings := by
    intro settled
    rw [(effectiveSettings_eq_ok_iff source).2 settled] at refused
    cases refused
  cases taken : source.path? with
  | none =>
      rw [taken] at unsettled
      exact absurd .default (unsettled _)
  | some path =>
      rw [taken] at unsettled
      refine ⟨path, rfl, ?_⟩
      cases read : world.files.read path with
      | error failure => exact .unread read
      | ok text =>
          cases document : Toml.parse? text with
          | none => exact .noDocument read document
          | some members =>
              refine .noSettings read document fun settings describes => ?_
              have accepted := (Settings.ofText_eq_ok_iff text settings).2
                ⟨members, document, describes⟩
              exact unsettled _ (.file path text settings read accepted)

/-! ### The call -/

theorem settingsSource_eq {invocation : Invocation} {repository : OsString}
    (looksIn : invocation.command.LooksIn repository) (world : World) :
    settingsSource world invocation =
      .resolve world.files repository invocation.settingsPath world.sharedDirectory? := by
  obtain ⟨verbose, settingsPath, command⟩ := invocation
  cases looksIn <;> rfl

theorem settingsReport_message {source : Source} {file : OsString}
    (taken : source.path? = some file) (refusal : Settings.Refusal) :
    (settingsReport source refusal).message = "Failed to load settings: " ++ file.display := by
  have shown : (source.path?.map OsString.display).getD "" = file.display := by
    rw [taken, Option.map_some, Option.getD_some]
  exact congrArg ("Failed to load settings: " ++ ·) shown

/-- Every command but the one that writes a settings file is run with the settings of the one
source that counts, as the environment leaves them, or fails because that source is of no use. -/
theorem call_runs_with_settings_in_effect (world : World) (arguments : List OsString)
    (invocation : Invocation) (repository : OsString) (reads : read arguments = .ok invocation)
    (looksIn : invocation.command.LooksIn repository) :
    ∃ path, (∀ other, TakenFrom world.files.ReachesFile world.IsShared repository
        invocation.settingsPath other ↔ other = path) ∧
      ((∃ source written settings, source.path? = path ∧ Written world.files path written ∧
          InEffect world.environment path written settings ∧
          program world arguments = runWith world invocation source settings) ∨
        ∃ file report, path = some file ∧ Unusable world.files file ∧
          report.message = "Failed to load settings: " ++ file.display ∧
          program world arguments = ⟨1, "", [], some report, world.files⟩) := by
  refine ⟨_, fun other => (takenFrom_iff other).trans eq_comm, ?_⟩
  have ran : program world arguments = invocation.run world := by rw [program, reads]
  rw [ran, Invocation.run, settingsSource_eq looksIn]
  generalize Source.resolve world.files repository invocation.settingsPath world.sharedDirectory? =
    source
  cases loaded : effectiveSettings world source with
  | ok settings =>
      obtain ⟨written, isWritten, inEffect⟩ :=
        inEffect_of_settingsFrom ((effectiveSettings_eq_ok_iff source).1 loaded)
      exact .inl ⟨source, written, settings, rfl, isWritten, inEffect, rfl⟩
  | error refusal =>
      obtain ⟨file, taken, unusable⟩ := unusable_of_refused loaded
      exact .inr ⟨file, _, taken, unusable, settingsReport_message taken refusal, rfl⟩

/-! ### A file that is given -/

theorem Written.ofText_eq {files : Tree} {path : OsString} {text : String} {written : Settings}
    (isWritten : Written files (some path) written) (holds : files.read path = .ok text) :
    Settings.ofText text = .ok written := by
  cases isWritten with
  | file read document describes =>
      cases holds.symm.trans read
      exact (Settings.ofText_eq_ok_iff text written).2 ⟨_, document, describes⟩

theorem Unusable.ofText_ne {files : Tree} {path : OsString} {text : String}
    (unusable : Unusable files path) (holds : files.read path = .ok text) (settings : Settings) :
    Settings.ofText text ≠ .ok settings := by
  intro accepted
  obtain ⟨members, document, describes⟩ := (Settings.ofText_eq_ok_iff text settings).1 accepted
  cases unusable with
  | unread read => cases holds.symm.trans read
  | noDocument read refused =>
      cases holds.symm.trans read
      cases document.symm.trans refused
  | noSettings read given refused =>
      cases holds.symm.trans read
      cases document.symm.trans given
      exact refused settings describes

def givenSettings (text : String) : World where
  files := (Tree.empty.put ["work", "conf"] .directory).put ["work", "conf", "lint.toml"]
    (.file text.toUTF8)
  environment := [("DEBUG", "true")]
  stdin := .empty

theorem read_givenSettings (text : String) :
    (givenSettings text).files.read "conf/lint.toml" = .ok text :=
  Tree.read_of_look_text rfl

theorem ofText_suggesting :
    Settings.ofText "suggestions = true\ncatalog = \"rules.json\"\nanalyzer.exclude = [\"gen\"]" =
      .ok ⟨false, true, some "rules.json", ["gen"]⟩ :=
  (toOption_eq_some_iff _ _).1 (by decide +kernel)

theorem ofText_wordForToggle (settings : Settings) :
    Settings.ofText "debug = \"yes\"" ≠ .ok settings := by
  have nothing : (Settings.ofText "debug = \"yes\"").toOption = none := by decide +kernel
  intro accepted
  rw [accepted] at nothing
  cases nothing

/-- The catalog is taken from the directory of the file, and the toggle of the environment is on. -/
theorem settings_eq_of_inEffect {settings : Settings}
    (inEffect : InEffect [("DEBUG", "true")] (some "conf/lint.toml")
      ⟨false, true, some "rules.json", ["gen"]⟩ settings) :
    settings = ⟨true, true, some "conf/rules.json", ["gen"]⟩ := by
  obtain ⟨debug, suggestions, catalog, exclude⟩ := settings
  obtain rfl : debug = true := inEffect.debug.2 (.inr rfl)
  obtain rfl : suggestions = true := inEffect.suggestions.2 (.inl rfl)
  obtain rfl : exclude = ["gen"] := inEffect.exclude
  cases inEffect.catalog with
  | absolute fromRoot => exact absurd fromRoot (by decide)
  | relative taken notFromRoot parent leads =>
      cases taken
      cases parent
      decide

theorem call_runs_with_given_settings :
    read ["--config", "conf/lint.toml", "rule", "semi"] =
      .ok ⟨false, some "conf/lint.toml", .rule "semi"⟩ ∧
    (∃ source, program
        (givenSettings "suggestions = true\ncatalog = \"rules.json\"\nanalyzer.exclude = [\"gen\"]")
        ["--config", "conf/lint.toml", "rule", "semi"] =
      runWith
        (givenSettings "suggestions = true\ncatalog = \"rules.json\"\nanalyzer.exclude = [\"gen\"]")
        ⟨false, some "conf/lint.toml", .rule "semi"⟩ source
        ⟨true, true, some "conf/rules.json", ["gen"]⟩) ∧
    (∃ report, report.message = "Failed to load settings: conf/lint.toml" ∧
      program (givenSettings "debug = \"yes\"") ["--config", "conf/lint.toml", "rule", "semi"] =
        ⟨1, "", [], some report, (givenSettings "debug = \"yes\"").files⟩) ∧
    read ["--config", "absent.toml", "rule", "semi"] =
      .ok ⟨false, some "absent.toml", .rule "semi"⟩ ∧
    ∃ report, report.message = "Failed to load settings: absent.toml" ∧
      program (givenSettings "") ["--config", "absent.toml", "rule", "semi"] =
        ⟨1, "", [], some report, (givenSettings "").files⟩ := by
  have reads : read ["--config", "conf/lint.toml", "rule", "semi"] =
      .ok ⟨false, some "conf/lint.toml", .rule "semi"⟩ := by rfl
  have readsAbsent : read ["--config", "absent.toml", "rule", "semi"] =
      .ok ⟨false, some "absent.toml", .rule "semi"⟩ := by rfl
  have missing : (givenSettings "").files.read "absent.toml" = .error .notFound := by rfl
  refine ⟨reads, ?_, ?_, readsAbsent, ?_⟩
  · have accepted := ofText_suggesting
    generalize "suggestions = true\ncatalog = \"rules.json\"\nanalyzer.exclude = [\"gen\"]" = text
      at accepted
    obtain ⟨path, taken, outcome⟩ :=
      call_runs_with_settings_in_effect (givenSettings text) _ _ _ reads (.rule "semi")
    obtain rfl := (taken _).1 (.given "conf/lint.toml")
    rcases outcome with ⟨source, written, settings, -, isWritten, inEffect, ran⟩ |
      ⟨file, report, same, unusable, -⟩
    · cases accepted.symm.trans (isWritten.ofText_eq (read_givenSettings text))
      exact ⟨source, settings_eq_of_inEffect inEffect ▸ ran⟩
    · cases same
      exact absurd accepted (unusable.ofText_ne (read_givenSettings text) _)
  · have refused := ofText_wordForToggle
    generalize "debug = \"yes\"" = text at refused
    obtain ⟨path, taken, outcome⟩ :=
      call_runs_with_settings_in_effect (givenSettings text) _ _ _ reads (.rule "semi")
    obtain rfl := (taken _).1 (.given "conf/lint.toml")
    rcases outcome with ⟨_, written, _, -, isWritten, -⟩ | ⟨file, report, same, -, told, ran⟩
    · exact absurd (isWritten.ofText_eq (read_givenSettings text)) (refused written)
    · cases same
      exact ⟨report, told, ran⟩
  · obtain ⟨path, taken, outcome⟩ :=
      call_runs_with_settings_in_effect (givenSettings "") _ _ _ readsAbsent (.rule "semi")
    obtain rfl := (taken _).1 (.given "absent.toml")
    rcases outcome with ⟨_, _, _, -, written, -⟩ | ⟨file, report, same, -, told, ran⟩
    · cases written with
      | file read => cases missing.symm.trans read
    · cases same
      exact ⟨report, told, ran⟩

/-! ### Files that are passed over -/

def brokenProject : World where
  files := (Tree.empty.put ["work", "lintbridge.toml"] (.file "broken =".toUTF8)).put
    ["work", "rules.json"] (.file (Json.Value.object []).compact.toUTF8)
  environment := []
  stdin := .empty

def brokenShared : World where
  files := (Tree.empty.put ["work", unwritable] .directory).put ["work", unwritable, "config.toml"]
    (.file "broken =".toUTF8)
  environment := []
  stdin := .empty
  otherVariables := [("LINTBRIDGE_CONFIG_DIR", ⟨unwritable, by decide +kernel⟩)]

theorem longestPath_lt_projectPath {name : OsString} (member : name ∈ Source.projectNames) :
    4095 < (join (Files.hereRepeated 2040) name).length := by
  have long : ∀ name ∈ Source.projectNames, 15 ≤ name.length := by decide +kernel
  have := long name member
  rw [Files.Path.length_join_hereRepeated _ (Source.isName_of_mem_projectNames name member)]
  omega

theorem leadsToFile_brokenProject :
    brokenProject.files.LeadsToFile (join (Files.hereRepeated 2040) "lintbridge.toml") := by
  have isName := Source.isName_of_mem_projectNames "lintbridge.toml" List.mem_cons_self
  have reached := brokenProject.files.follow_hereRepeated 2040
  refine ⟨Files.Path.zero_not_mem_join_hereRepeated 2040 isName,
    Files.Path.join_hereRepeated_ne_empty 2040 isName, "broken =".toUTF8, ?_⟩
  rw [Tree.follow_join isName (Files.hereRepeated_ne_empty 2040) reached,
    Files.ofPath_hereRepeated]
  rfl

theorem settingsSource_brokenProject {invocation : Invocation}
    (configures : invocation.command =
      .config (Files.hereRepeated 2040) none (some "rules.json") false)
    (ungiven : invocation.settingsPath = none) :
    settingsSource brokenProject invocation = .defaults := by
  refine settingsSource_eq_defaults configures ungiven rfl fun name member isFile => ?_
  exact Nat.not_lt.2 (Tree.isFile_iff_reachesFile.1 isFile).1 (longestPath_lt_projectPath member)

theorem program_brokenProject_succeeds :
    (program brokenProject
      ["config", "--catalog", "rules.json", Files.hereRepeated 2040]).exitCode = 0 := by
  have reads : read ["config", "--catalog", "rules.json", Files.hereRepeated 2040] =
      .ok ⟨false, none, .config (Files.hereRepeated 2040) none (some "rules.json") false⟩ :=
    read_config_catalog (Files.hereRepeated_ne_empty 2040) (looksLikeOption_hereRepeated 2040)
  have accepted : Catalog.ofText (Json.Value.object []).compact = .ok [] :=
    Catalog.ofText_compact (.object .nil nofun) (by decide)
  have unmounted : ¬ brokenProject.files.isFile mountedRequest := Bool.false_ne_true
  refine (config_succeeds_iff reads rfl unmounted).2
    ⟨OsString.isText_ofText _, .default, .empty, .ok [], ?_⟩
  rw [settingsSource_brokenProject rfl rfl]
  exact ⟨.default, .empty, .file _ _ [] (Tree.read_of_look_text rfl) accepted,
    Tree.isDirectory_hereRepeated _ (by decide), .inr (.inr ⟨_, rfl⟩)⟩

theorem call_passes_over_broken_settings :
    (TakenFrom brokenProject.files.LeadsToFile brokenProject.IsShared (Files.hereRepeated 2040) none
        (some (join (Files.hereRepeated 2040) "lintbridge.toml")) ∧
      Unusable brokenProject.files (join (Files.hereRepeated 2040) "lintbridge.toml") ∧
      read ["config", "--catalog", "rules.json", Files.hereRepeated 2040] =
        .ok ⟨false, none, .config (Files.hereRepeated 2040) none (some "rules.json") false⟩ ∧
      (program brokenProject
        ["config", "--catalog", "rules.json", Files.hereRepeated 2040]).exitCode = 0) ∧
    TakenFrom brokenShared.files.LeadsToFile (brokenShared.Sets "LINTBRIDGE_CONFIG_DIR") "." none
      (some (join unwritable "config.toml")) ∧
    Unusable brokenShared.files (join unwritable "config.toml") ∧
    read ["rule", "semi"] = .ok ⟨false, none, .rule "semi"⟩ ∧
    (program brokenShared ["rule", "semi"]).exitCode = 0 := by
  have tooLong : brokenProject.files.read (join (Files.hereRepeated 2040) "lintbridge.toml") =
      .error .nameTooLong := by
    have isName := Source.isName_of_mem_projectNames "lintbridge.toml" List.mem_cons_self
    rw [Tree.read, Tree.look_of_long (Files.Path.zero_not_mem_join_hereRepeated 2040 isName)
      (longestPath_lt_projectPath List.mem_cons_self)]
  have noDocument : Toml.parse? "broken =" = none := by
    rw [← Option.isNone_iff_eq_none]
    decide +kernel
  have absent : ∀ name ∈ Source.projectNames, ¬ brokenShared.files.isFile (join "." name) := by
    decide +kernel
  have missing (name : OsString) (member : name ∈ Source.projectNames)
      (short : (join "." name).length ≤ 4095) : ¬ brokenShared.files.LeadsToFile (join "." name) :=
    fun leads => absent name member (Tree.isFile_iff_reachesFile.2 ⟨short, leads⟩)
  refine ⟨⟨.plain leadsToFile_brokenProject, .unread tooLong,
    read_config_catalog (Files.hereRepeated_ne_empty 2040) (looksLikeOption_hereRepeated 2040),
    program_brokenProject_succeeds⟩, ?_, .noDocument (Tree.read_of_look_text rfl) noDocument, rfl,
    rfl⟩
  refine .shared (missing _ (by decide) (by decide)) (missing _ (by decide) (by decide))
    (@World.Sets.other _ _ ⟨unwritable, by decide +kernel⟩ rfl rfl) ?_
  exact ⟨by decide, by decide, _, rfl⟩

end Cli

end LintAdapter
