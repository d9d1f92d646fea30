import LintAdapter.Glob
import LintAdapter.Log
import LintAdapter.Synthesis.Configuration

namespace LintAdapter.Configuration

open LogEntry (debug warn)

def shown (n : Nat) : String := toString n

def narrateFiles (request : Request) : List LogEntry :=
  match request.fileSelection? with
  | none => [debug "files: using default set"]
  | some globs =>
    (globs.filterMap fun glob => (Glob.flaw? glob).map fun flaw =>
      warn ("files: `" ++ glob ++ "` is not a valid glob: " ++ flaw.message)) ++
    [debug ("files: " ++ shown globs.length ++ " from request")]

def narrateBlocks (rules : RuleSettings) : List LogEntry :=
  (Block.scopesOf rules).map (fun scope =>
    debug ("options: setting " ++ shown (Block.rulesIn (some scope) rules).length ++ " " ++
      scope.name ++ " patterns")) ++
  match Block.rulesIn none rules with
  | [] => []
  | settings => [debug ("options: setting " ++ shown settings.length ++ " patterns")]

def narrateRecommended (entries : List Catalog.Entry) : List LogEntry :=
  let recommended := entries.filter isRecommended
  recommended.map (fun entry =>
    debug ("options: " ++ Rule.toPlatformId entry.id ++ " with " ++
      shown entry.metadata.defaults.length ++ " default parameter(s)")) ++
  [debug ("options: " ++ shown recommended.length ++ " of " ++ shown entries.length ++
      " rules are recommended"),
    debug ("options: setting recommended (" ++ shown recommended.length ++ ") patterns")] ++
  narrateBlocks (recommendedRules entries)

def narrateOrigin (origin : Origin) : LogEntry := debug ("config: finished (" ++ origin.name ++ ")")

/-- What is told of the rules. Nothing is told of a registry that fails. -/
def narrateRules (own : Option String) (selection : Option (List Pattern)) (registry : Registry) :
    List LogEntry :=
  match selection, own with
  | some patterns, own =>
    debug ("options: " ++ shown patterns.length ++ " patterns in request") ::
      (own.toList.map fun name => debug ("options: layering request patterns over " ++ name)) ++
      narrateBlocks (selectedRules patterns) ++ [narrateOrigin .selection]
  | none, some name =>
    [debug ("options: using " ++ name ++ " from repo root"), narrateOrigin .delegated]
  | none, none =>
    match registry with
    | .error _ => []
    | .ok entries => narrateRecommended entries ++ [narrateOrigin .recommended]

def narrate (files : Files.Tree) (repository : OsString) (request : Request) (registry : Registry) :
    List LogEntry :=
  if files.isDirectory repository then
    debug ("config: creating for " ++ repository.display) :: narrateFiles request ++
      narrateRules (repositoryFile? files repository) request.selection? registry
  else []

end LintAdapter.Configuration
