import LintAdapter.Proofs.Cli.Inputs
import LintAdapter.Proofs.Files.Lookup

namespace LintAdapter

open Files (Tree Place)
open Files.Path (join parts)

def Files.Tree.LeadsToFile (files : Tree) (path : OsString) : Prop :=
  0 ∉ path.bytes ∧ path ≠ "" ∧
    ∃ content, files.follow (Place.start path) .directory (parts path) = .ok (.file content)

/-- The path leads to a regular file and is not too long. -/
def Files.Tree.ReachesFile (files : Tree) (path : OsString) : Prop :=
  path.length ≤ 4095 ∧ files.LeadsToFile path

theorem Files.Tree.isFile_iff_reachesFile {files : Tree} {path : OsString} :
    files.isFile path ↔ files.ReachesFile path := by
  simp only [isFile_iff, look_eq_ok_iff, exists_and_left]
  exact ⟨fun ⟨noZero, notEmpty, short, found⟩ => ⟨short, noZero, notEmpty, found⟩,
    fun ⟨short, noZero, notEmpty, found⟩ => ⟨noZero, notEmpty, short, found⟩⟩

namespace Cli

theorem Source.isName_of_mem_projectNames :
    ∀ name ∈ Source.projectNames, Files.Path.IsName name := by
  decide +kernel

inductive World.Sets (world : World) (name : String) : OsString → Prop
  | text {value : String} (given : world.environment.lookup name = some value) :
      Sets world name value
  | other {value : { value : OsString // value.isText = false }}
      (noText : world.environment.lookup name = none)
      (given : world.otherVariables.lookup name = some value) : Sets world name value.val

inductive World.IsHome (world : World) : OsString → Prop
  | environment {home : OsString} (set : world.Sets "HOME" home) (notEmpty : home ≠ "") :
      IsHome world home
  | account {home : OsString} (unset : ∀ value, world.Sets "HOME" value → value = "")
      (named : world.accountHome = some home) : IsHome world home

inductive World.IsShared (world : World) : OsString → Prop
  | named {directory : String}
      (set : world.environment.lookup "LINTBRIDGE_CONFIG_DIR" = some directory) :
      IsShared world directory
  | home {home : OsString} (unset : world.environment.lookup "LINTBRIDGE_CONFIG_DIR" = none)
      (isHome : world.IsHome home) : IsShared world (join home ".lintbridge")

namespace World

variable {world : World}

theorem undecoded?_eq_some_iff (name : String) (value : OsString) :
    world.undecoded? name = some value ↔ world.Sets name value := by
  rw [undecoded?]
  constructor
  · intro found
    split at found
    · cases found
      exact .text ‹_›
    · obtain ⟨other, given, rfl⟩ := Option.map_eq_some_iff.1 found
      exact .other ‹_› given
  · rintro (given | ⟨noText, given⟩)
    · rw [given]
    · rw [noText, given]
      rfl

theorem home?_eq_some_iff (home : OsString) : world.home? = some home ↔ world.IsHome home := by
  have usable (value : OsString) : (!value.isEmpty) = true ↔ value ≠ "" := by
    rw [Bool.not_eq_true', ← Bool.not_eq_true, OsString.isEmpty_iff]
  rw [home?, Option.or_eq_some_iff, Option.filter_eq_some_iff, Option.filter_eq_none_iff]
  simp only [undecoded?_eq_some_iff, usable, Source.homeVariable, ne_eq, not_not]
  constructor
  · rintro (⟨set, notEmpty⟩ | ⟨unset, named⟩)
    · exact .environment set notEmpty
    · exact .account unset named
  · rintro (⟨set, notEmpty⟩ | ⟨unset, named⟩)
    · exact .inl ⟨set, notEmpty⟩
    · exact .inr ⟨unset, named⟩

theorem sharedDirectory?_eq_some_iff (directory : OsString) :
    world.sharedDirectory? = some directory ↔ world.IsShared directory := by
  rw [sharedDirectory?]
  unfold Source.sharedDirectory?
  constructor
  · intro found
    split at found
    · cases found
      exact .named ‹_›
    · obtain ⟨home, given, rfl⟩ := Option.map_eq_some_iff.1 found
      exact .home ‹_› ((home?_eq_some_iff home).1 given)
  · rintro (set | ⟨unset, isHome⟩)
    · rw [Source.directoryVariable, set]
    · rw [Source.directoryVariable, unset, (home?_eq_some_iff _).2 isHome]
      rfl

end World

/-- The file that the settings are taken from, if there is one: the path that is given, or else the
first of the others that is there. -/
inductive TakenFrom (isThere isShared : OsString → Prop) (repository : OsString) :
    (given : Option OsString) → Option OsString → Prop
  | given (path : OsString) : TakenFrom isThere isShared repository (some path) (some path)
  | plain (there : isThere (join repository "lintbridge.toml")) :
      TakenFrom isThere isShared repository none (some (join repository "lintbridge.toml"))
  | hidden (missing : ¬ isThere (join repository "lintbridge.toml"))
      (there : isThere (join repository ".lintbridge.toml")) :
      TakenFrom isThere isShared repository none (some (join repository ".lintbridge.toml"))
  | shared {directory : OsString} (missing : ¬ isThere (join repository "lintbridge.toml"))
      (hiddenMissing : ¬ isThere (join repository ".lintbridge.toml"))
      (shares : isShared directory) (there : isThere (join directory "config.toml")) :
      TakenFrom isThere isShared repository none (some (join directory "config.toml"))
  | nowhere (missing : ¬ isThere (join repository "lintbridge.toml"))
      (hiddenMissing : ¬ isThere (join repository ".lintbridge.toml"))
      (noShared : ∀ directory, isShared directory → ¬ isThere (join directory "config.toml")) :
      TakenFrom isThere isShared repository none none

section

variable {world : World} {repository : OsString} {given path : Option OsString}

theorem projectPath_eq_none
    (missing : ¬ world.files.ReachesFile (join repository "lintbridge.toml"))
    (hiddenMissing : ¬ world.files.ReachesFile (join repository ".lintbridge.toml")) :
    (Source.projectPaths repository).find? world.files.isFile = none := by
  rw [Source.projectPaths, Source.projectNames, List.map_cons, List.map_cons, List.map_nil,
    List.find?_cons_of_neg (mt Tree.isFile_iff_reachesFile.1 missing),
    List.find?_cons_of_neg (mt Tree.isFile_iff_reachesFile.1 hiddenMissing), List.find?_nil]

theorem sharedPath_eq_some_iff (path : OsString) :
    (world.sharedDirectory?.map (join · Source.sharedName)).filter world.files.isFile = some path ↔
      ∃ directory, world.IsShared directory ∧
        world.files.ReachesFile (join directory "config.toml") ∧
        path = join directory "config.toml" := by
  simp only [Option.filter_eq_some_iff, Option.map_eq_some_iff,
    World.sharedDirectory?_eq_some_iff, Tree.isFile_iff_reachesFile, Source.sharedName]
  constructor
  · rintro ⟨⟨directory, isShared, rfl⟩, there⟩
    exact ⟨directory, isShared, there, rfl⟩
  · rintro ⟨directory, isShared, there, rfl⟩
    exact ⟨⟨directory, isShared, rfl⟩, there⟩

theorem TakenFrom.path?_eq
    (taken : TakenFrom world.files.ReachesFile world.IsShared repository given path) :
    (Source.resolve world.files repository given world.sharedDirectory?).path? = path := by
  rw [Source.path?_resolve]
  cases taken with
  | given path => rfl
  | plain there =>
      rw [Source.projectPaths, Source.projectNames, List.map_cons,
        List.find?_cons_of_pos (Tree.isFile_iff_reachesFile.2 there)]
      rfl
  | hidden missing there =>
      rw [Source.projectPaths, Source.projectNames, List.map_cons, List.map_cons,
        List.find?_cons_of_neg (mt Tree.isFile_iff_reachesFile.1 missing),
        List.find?_cons_of_pos (Tree.isFile_iff_reachesFile.2 there)]
      rfl
  | shared missing hiddenMissing shares there =>
      rw [projectPath_eq_none missing hiddenMissing,
        (sharedPath_eq_some_iff _).2 ⟨_, shares, there, rfl⟩]
      rfl
  | nowhere missing hiddenMissing noShared =>
      have nothing :
          (world.sharedDirectory?.map (join · Source.sharedName)).filter world.files.isFile =
            none := by
        rw [Option.eq_none_iff_forall_ne_some]
        intro path found
        obtain ⟨directory, shares, there, -⟩ := (sharedPath_eq_some_iff path).1 found
        exact noShared directory shares there
      rw [projectPath_eq_none missing hiddenMissing, nothing]
      rfl

theorem exists_takenFrom (isThere isShared : OsString → Prop) (repository : OsString)
    (given : Option OsString) : ∃ path, TakenFrom isThere isShared repository given path := by
  cases given with
  | some path => exact ⟨_, .given path⟩
  | none =>
      by_cases plain : isThere (join repository "lintbridge.toml")
      · exact ⟨_, .plain plain⟩
      by_cases hidden : isThere (join repository ".lintbridge.toml")
      · exact ⟨_, .hidden plain hidden⟩
      by_cases shared : ∃ directory, isShared directory ∧ isThere (join directory "config.toml")
      · obtain ⟨directory, shares, there⟩ := shared
        exact ⟨_, .shared plain hidden shares there⟩
      · exact ⟨_, .nowhere plain hidden fun directory shares there =>
          shared ⟨directory, shares, there⟩⟩

theorem takenFrom_iff (path : Option OsString) :
    TakenFrom world.files.ReachesFile world.IsShared repository given path ↔
      (Source.resolve world.files repository given world.sharedDirectory?).path? = path := by
  refine ⟨TakenFrom.path?_eq, ?_⟩
  rintro rfl
  obtain ⟨path, taken⟩ :=
    exists_takenFrom world.files.ReachesFile world.IsShared repository given
  rwa [taken.path?_eq]

end

end Cli

end LintAdapter
