import LintAdapter.Cli.Inputs
import LintAdapter.Proofs.Cli.Run
import Mathlib.Data.List.Find
import Mathlib.Tactic.SplitIfs
import Mathlib.Tactic.Tauto

namespace LintAdapter

namespace Files.Tree

/-- Each of some paths leads to the same in two trees. -/
def AgreeOn (paths : List OsString) (tree other : Tree) : Prop :=
  ∀ path ∈ paths, other.look path = tree.look path

variable {tree other : Tree} {path : OsString}

theorem AgreeOn.mono {paths fewer : List OsString} (agree : tree.AgreeOn paths other)
    (subset : fewer ⊆ paths) : tree.AgreeOn fewer other :=
  fun path member => agree path (subset member)

theorem read_eq (same : other.look path = tree.look path) : other.read path = tree.read path := by
  rw [read, same, read]

theorem isFile_eq (same : other.look path = tree.look path) :
    other.isFile path = tree.isFile path := by
  rw [isFile, same, isFile]

theorem isDirectory_eq (same : other.look path = tree.look path) :
    other.isDirectory path = tree.isDirectory path := by
  rw [isDirectory, same, isDirectory]

end Files.Tree

namespace Cli

variable {world : World} {files other : Files.Tree} {settings : Settings} {repository : OsString}
  {request catalog : Option OsString}

section

variable {given directory : Option OsString}

theorem Source.path?_resolve :
    (resolve files repository given directory).path? =
      (given.or ((projectPaths repository).find? files.isFile)).or
        ((directory.map (Files.Path.join · sharedName)).filter files.isFile) := by
  cases given with
  | some path => rfl
  | none =>
      rw [resolve]
      cases (projectPaths repository).find? files.isFile with
      | some path => rfl
      | none =>
          cases (directory.map (Files.Path.join · sharedName)).filter files.isFile <;> rfl

theorem Source.mem_of_path?_resolve {path : OsString}
    (found : (resolve files repository given directory).path? = some path) :
    path ∈ given.toList ++ projectPaths repository ++
      (directory.map (Files.Path.join · sharedName)).toList := by
  rw [path?_resolve, Option.or_eq_some_iff, Option.or_eq_some_iff] at found
  rw [List.mem_append, List.mem_append, Option.mem_toList, Option.mem_toList]
  rcases found with (named | ⟨-, project⟩) | ⟨-, shared⟩
  · exact .inl (.inl named)
  · exact .inl (.inr (List.mem_of_find?_eq_some project))
  · exact .inr (Option.filter_eq_some_iff.1 shared).1

theorem Source.resolve_eq
    (agree : files.AgreeOn (given.toList ++ projectPaths repository ++
      (directory.map (Files.Path.join · sharedName)).toList) other) :
    resolve other repository given directory = resolve files repository given directory := by
  cases given with
  | some path => rfl
  | none =>
      have project : (projectPaths repository).find? other.isFile =
          (projectPaths repository).find? files.isFile := by
        apply List.find?_congr
        intro path member
        exact Files.Tree.isFile_eq (agree path (by simp [member]))
      have shared : (directory.map (Files.Path.join · sharedName)).filter other.isFile =
          (directory.map (Files.Path.join · sharedName)).filter files.isFile := by
        cases sharing : directory.map (Files.Path.join · sharedName) with
        | none => rfl
        | some path =>
            have same := Files.Tree.isFile_eq (agree path (by simp [sharing]))
            rw [Option.filter_some, Option.filter_some, same]
      rw [resolve, resolve, project, shared]

end

theorem effectiveSettings_eq {source : Source}
    (agree : world.files.AgreeOn source.path?.toList files) :
    effectiveSettings { world with files } source = effectiveSettings world source := by
  have loaded : source.load files = source.load world.files := by
    rw [Source.load, Source.load]
    cases there : source.path? with
    | none => rfl
    | some path =>
        have same := Files.Tree.read_eq (agree path (by simp [there]))
        simp only [Settings.load, same]
  rw [effectiveSettings, effectiveSettings, loaded]

theorem loadRequest_eq (agree : files.AgreeOn (mountedRequest :: request.toList) other) :
    loadRequest other request = loadRequest files request := by
  have mounted : other.isFile mountedRequest = files.isFile mountedRequest :=
    Files.Tree.isFile_eq (agree _ List.mem_cons_self)
  have path : requestPath? other request = requestPath? files request := by
    rw [requestPath?, requestPath?, mounted]
  rw [loadRequest, loadRequest, path]
  cases chosen : requestPath? files request with
  | none => rfl
  | some path =>
      have listed : path ∈ mountedRequest :: request.toList := by
        rw [requestPath?, Option.or_eq_some_iff] at chosen
        rcases chosen with rfl | ⟨-, chosen⟩
        · simp
        · split_ifs at chosen
          cases chosen
          simp
      simp only [Request.load, Files.Tree.read_eq (agree path listed)]

theorem openRegistry_eq {chosen : Option OsString} (agree : files.AgreeOn chosen.toList other) :
    openRegistry other chosen = openRegistry files chosen := by
  cases chosen with
  | none => rfl
  | some path =>
      have same : other.read path = files.read path := Files.Tree.read_eq (agree path (by simp))
      simp only [openRegistry, loadCatalog, Catalog.load, same]

theorem runConfig_eq {pretty : Bool}
    (agree : files.AgreeOn ((Command.config repository request catalog pretty).inputPaths settings)
      other) :
    runConfig other settings repository request catalog pretty =
      runConfig files settings repository request catalog pretty := by
  rw [Command.inputPaths] at agree
  have asks : loadRequest other request = loadRequest files request := by
    apply loadRequest_eq (agree.mono _)
    intro path member
    simp only [List.mem_append, List.mem_cons] at member ⊢
    tauto
  have opens : openRegistry other (catalog.or settings.catalog) =
      openRegistry files (catalog.or settings.catalog) := by
    apply openRegistry_eq (agree.mono _)
    intro path member
    simp only [List.mem_append]
    tauto
  have isDirectory : other.isDirectory repository = files.isDirectory repository :=
    Files.Tree.isDirectory_eq (agree _ (by simp))
  have own : Configuration.repositoryFile? other repository =
      Configuration.repositoryFile? files repository := by
    apply List.find?_congr
    intro name member
    exact Files.Tree.isFile_eq (agree _ (by simp [List.mem_map_of_mem member]))
  simp only [runConfig, configuration, asks, opens, Configuration.narrate, Configuration.create,
    isDirectory, own]

theorem leavesFiles_loadRequest : Run.LeavesFiles (loadRequest files request) := by
  rw [loadRequest]
  cases requestPath? files request with
  | none => exact Run.leavesFiles_pure _
  | some path => exact (Run.leavesFiles_tell _).bind fun _ => Run.leavesFiles_need _ _ _

theorem leavesFiles_openRegistry (chosen : Option OsString) :
    Run.LeavesFiles (openRegistry files chosen) := by
  cases chosen with
  | none => exact Run.leavesFiles_pure _
  | some path =>
      have loads : Run.LeavesFiles (loadCatalog files path) :=
        (Run.leavesFiles_need _ _ _).bind fun _ =>
          (Run.leavesFiles_tell _).bind fun _ => Run.leavesFiles_pure _
      exact loads.bind fun _ => (Run.leavesFiles_tell _).bind fun _ => Run.leavesFiles_pure _

theorem leavesFiles_configuration :
    Run.LeavesFiles (configuration files settings repository request catalog) :=
  leavesFiles_loadRequest.bind fun _ => (leavesFiles_openRegistry _).bind fun _ =>
    (Run.leavesFiles_tell _).bind fun _ => (Run.leavesFiles_need _ _ _).bind fun _ =>
      (Run.leavesFiles_tell _).bind fun _ => Run.leavesFiles_pure _

theorem leavesFiles_printConfiguration (options : Configuration) (globs : List String)
    (pretty : Bool) : Run.LeavesFiles (printConfiguration options globs pretty) := by
  rw [printConfiguration]
  cases documentText options globs pretty with
  | ok text => exact Run.leavesFiles_print _
  | error message => exact fun _ _ => rfl

theorem leavesFiles_runConfig (pretty : Bool) :
    Run.LeavesFiles (runConfig files settings repository request catalog pretty) :=
  leavesFiles_configuration.bind fun made => leavesFiles_printConfiguration made.1 made.2 pretty

section

variable {arguments : List OsString} {invocation : Invocation} {pretty : Bool}
  (configures : invocation.command = .config repository request catalog pretty)

include configures

theorem runWith_config_eq (source : Source)
    (agree : world.files.AgreeOn (invocation.command.inputPaths settings) files) :
    runWith { world with files } invocation source settings =
      { runWith world invocation source settings with files } := by
  have leaves : Run.LeavesFiles (do
      Run.tell (narrateSource source)
      invocation.command.run world settings) := by
    rw [configures]
    exact (Run.leavesFiles_tell _).bind fun _ => leavesFiles_runConfig pretty
  have run : invocation.command.run { world with files } settings =
      invocation.command.run world settings := by
    rw [configures] at agree ⊢
    exact runConfig_eq agree
  rw [runWith, runWith, run]
  dsimp only
  rw [leaves ⟨world.files, [], ""⟩ files]
  rcases Run.results _ _ with ⟨report | ⟨⟩, progress⟩ <;> rfl

theorem program_config_eq (reads : read arguments = .ok invocation)
    (before : world.files.AgreeOn (invocation.settingsPaths world.sharedDirectory?) files)
    (agree : ∀ settings, effectiveSettings world (settingsSource world invocation) = .ok settings →
      world.files.AgreeOn (invocation.command.inputPaths settings) files) :
    program { world with files } arguments = { program world arguments with files } := by
  have resolves (world : World) : settingsSource world invocation =
      .resolve world.files repository invocation.settingsPath world.sharedDirectory? := by
    rw [settingsSource, configures]
    rfl
  rw [Invocation.settingsPaths, configures, Command.repository] at before
  have source : settingsSource { world with files } invocation =
      settingsSource world invocation := by
    rw [resolves, resolves]
    exact Source.resolve_eq before
  have found : effectiveSettings { world with files } (settingsSource world invocation) =
      effectiveSettings world (settingsSource world invocation) := by
    apply effectiveSettings_eq (before.mono _)
    intro path member
    rw [Option.mem_toList, resolves] at member
    exact Source.mem_of_path?_resolve member
  rw [program, program, reads]
  change Invocation.run _ _ = { Invocation.run _ _ with files }
  rw [Invocation.run, Invocation.run, source, found]
  cases loads : effectiveSettings world (settingsSource world invocation) with
  | error refusal => rfl
  | ok settings => exact runWith_config_eq configures _ (agree settings loads)

end

end Cli

end LintAdapter
