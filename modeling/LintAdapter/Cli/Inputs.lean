import LintAdapter.Cli.Session

namespace LintAdapter.Cli

def variableNames : List String := [
  Settings.debugVariable, Settings.suggestionsVariable, Source.directoryVariable,
  Source.homeVariable]

def Invocation.settingsPaths (directory : Option OsString) (invocation : Invocation) :
    List OsString :=
  invocation.settingsPath.toList ++ Source.projectPaths invocation.command.repository ++
    (directory.map (Files.Path.join · Source.sharedName)).toList

def Command.inputPaths (settings : Settings) : Command → List OsString
  | .config repository request catalog _ =>
    mountedRequest :: repository :: request.toList ++
      (catalog.or settings.catalog).toList ++
      Configuration.repositoryNames.map fun name : String => Files.Path.join repository name
  | .convert input _ => input.toList
  | .rule _ => settings.catalog.toList
  | .init _ => [settingsFile]

def Command.readsStdin : Command → Bool
  | .convert none _ => true
  | _ => false

def wayTo (path : OsString) : List OsString :=
  let parts := Files.Path.parts path
  (List.range parts.length).map fun count => Files.Path.ofParts (parts.take (count + 1))

end LintAdapter.Cli
