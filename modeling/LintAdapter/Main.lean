import LintAdapter.Cli.Inputs

namespace LintAdapter.Cli

open Files (Tree Entry Place)

def probe (path : String) : IO (Option Entry) := do
  let place := (← IO.currentDir) / path
  try
    match (← place.metadata).type with
    | .dir => return some .directory
    | .file => return some (.file (← IO.FS.readBinFile place))
    | _ => return none
  catch _ => return none

def gather (tree : Tree) (paths : List OsString) : IO Tree :=
  (paths.flatMap wayTo).foldlM (fun tree (path : OsString) => do
    if path.isEmpty then return tree
    match ← probe path with
    | some entry => return tree.put (tree.locate (Place.ofPath path)) entry
    | none => return tree) tree

def gatherEnvironment : IO Settings.Environment :=
  variableNames.filterMapM fun name => do return (← IO.getEnv name).map (name, ·)

partial def readAll (stream : IO.FS.Stream) (before : ByteArray) : IO ByteArray := do
  let bytes ← stream.read 65536
  if bytes.isEmpty then return before else readAll stream (before ++ bytes)

def helpText : String :=
  "ESLint adapter for code-analysis platforms\n\n" ++
  "Usage: lintbridge [OPTIONS] <COMMAND>\n\n" ++
  "Commands:\n" ++
  "  config   Print the ESLint options and file globs for a repository\n" ++
  "  convert  Convert \x60eslint --format json\x60 output into platform results\n" ++
  "  rule     Show how a rule id is mapped and filtered\n" ++
  "  init     Initialize configuration file\n" ++
  "  help     Print this message or the help of the given subcommand(s)\n\n" ++
  "Options:\n" ++
  "  -v, --verbose          Enable verbose output\n" ++
  "  -c, --config <CONFIG>  Path to configuration file\n" ++
  "  -h, --help             Print help\n" ++
  "  -V, --version          Print version\n"

def bareWorld : IO World := do
  let working := (Files.Path.parts (← IO.currentDir).toString).filter (!·.isEmpty)
  -- Neither the user database nor variables that are not text can be asked for here.
  return {
    files := .empty working
    environment := ← gatherEnvironment
    stdin := .empty
    help := fun _ => helpText }

def gatherWorld (invocation : Invocation) : IO World := do
  let world ← bareWorld
  let files ← gather world.files (invocation.settingsPaths world.sharedDirectory?)
  let world := { world with files }
  let settings := (effectiveSettings world (settingsSource world invocation)).toOption
  let files ← gather files (invocation.command.inputPaths (settings.getD .default))
  let stdin ← if invocation.command.readsStdin then readAll (← IO.getStdin) .empty
    else pure .empty
  return { world with files, stdin }

def deliver (wrote : Bool) (outcome : Outcome) : IO UInt32 := do
  for entry in outcome.log do
    IO.eprintln entry.display
  if wrote && outcome.exitCode == 0 then
    IO.FS.writeFile settingsFile initialSettings
  IO.print outcome.stdout
  if let some report := outcome.report then
    IO.eprintln report.text
  return outcome.exitCode.toUInt32

def runProgram (arguments : List OsString) : IO UInt32 := do
  match read arguments with
  | .error other => deliver false (other.outcome (← bareWorld) arguments)
  | .ok invocation =>
    let world ← gatherWorld invocation
    let wrote := match invocation.command with
      | .init _ => true
      | _ => false
    deliver wrote (invocation.run world)

end LintAdapter.Cli

def main (arguments : List String) : IO UInt32 :=
  LintAdapter.Cli.runProgram (arguments.map .ofText)
