import LintAdapter.Settings

namespace LintAdapter.Cli

open Files (Tree Path.join)

inductive Source where
  | given (path : OsString)
  | project (path : OsString)
  | shared (path : OsString)
  | defaults
  deriving DecidableEq

namespace Source

def projectNames : List OsString := ["lintbridge.toml", ".lintbridge.toml"]

def sharedName : String := "config.toml"

def directoryVariable : String := "LINTBRIDGE_CONFIG_DIR"

def homeVariable : String := "HOME"

def sharedDirectory? (named : Option String) (home : Option OsString) : Option OsString :=
  match named with
  | some directory => some (.ofText directory)
  | none => home.map (Path.join · ".lintbridge")

def projectPaths (repository : OsString) : List OsString :=
  projectNames.map (Path.join repository)

def resolve (files : Tree) (repository : OsString) (given directory : Option OsString) : Source :=
  match given with
  | some path => .given path
  | none =>
    match (projectPaths repository).find? files.isFile with
    | some path => .project path
    | none =>
      match (directory.map (Path.join · sharedName)).filter files.isFile with
      | some path => .shared path
      | none => .defaults

def path? : Source → Option OsString
  | .given path => some path
  | .project path => some path
  | .shared path => some path
  | .defaults => none

def load (files : Tree) (source : Source) : Except Settings.Refusal Settings :=
  match source.path? with
  | some path => Settings.load files path
  | none => .ok .default

end Source

end LintAdapter.Cli
