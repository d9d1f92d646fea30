import LintAdapter.Cli.Arguments
import LintAdapter.Cli.Convert
import LintAdapter.Cli.Init
import LintAdapter.Cli.RuleReport
import LintAdapter.Cli.Source

namespace LintAdapter.Cli

open Files (Tree)
open LogEntry (debug info)
open Settings (Environment)

structure World where
  files : Tree
  /-- The variables whose values are text. -/
  environment : Environment
  stdin : ByteArray
  otherVariables : List (String × { value : OsString // value.isText = false }) := []
  /-- The home directory that the user database names. -/
  accountHome : Option OsString := none
  /-- What is printed for arguments that ask for help. -/
  help : List OsString → String := fun _ => ""

namespace World

def undecoded? (world : World) (name : String) : Option OsString :=
  match world.environment.lookup name with
  | some value => some (.ofText value)
  | none => (world.otherVariables.lookup name).map Subtype.val

/-- The home directory. A variable that is set to nothing counts as absent. -/
def home? (world : World) : Option OsString :=
  ((world.undecoded? Source.homeVariable).filter (!·.isEmpty)).or world.accountHome

/-- The global directory. A variable that is not text counts as absent. -/
def sharedDirectory? (world : World) : Option OsString :=
  Source.sharedDirectory? (world.environment.lookup Source.directoryVariable) world.home?

end World

structure Outcome where
  exitCode : Nat
  stdout : String
  log : List LogEntry
  report : Option Report
  files : Tree

def Command.run (world : World) (settings : Settings) : Command → Run Unit
  | .config repository request catalog pretty =>
    runConfig world.files settings repository request catalog pretty
  | .convert input format => runConvert world.files settings world.stdin input format
  | .rule id => runRule world.files settings id
  | .init force => runInit world.files force

def Command.repository : Command → OsString
  | .config repository _ _ _ => repository
  | _ => "."

/-- Where the settings of a call come from. A settings file is written without reading any. -/
def settingsSource (world : World) (invocation : Invocation) : Source :=
  match invocation.command with
  | .init _ => .defaults
  | command =>
    .resolve world.files command.repository invocation.settingsPath world.sharedDirectory?

def effectiveSettings (world : World) (source : Source) : Except Settings.Refusal Settings :=
  (·.overlay world.environment) <$> source.load world.files

def narrateSource : Source → List LogEntry
  | .defaults => []
  | .shared path => [info ("Using global settings: " ++ path.display)]
  | .given path => [debug ("Using settings: " ++ path.display)]
  | .project path => [debug ("Using settings: " ++ path.display)]

def settingsReport (source : Source) (refusal : Settings.Refusal) : Report where
  message := "Failed to load settings: " ++ (source.path?.map OsString.display).getD ""
  causes := refusal.message :: match refusal with
    | .file _ failure => [failure.message]
    | .content => []

def failed (progress : Progress) (report : Report) : Outcome :=
  ⟨1, progress.stdout, progress.log, some report, progress.files⟩

def Progress.shown (verbose : Bool) (progress : Progress) : Progress :=
  { progress with log := progress.log.filter (·.isShown verbose) }

def runWith (world : World) (invocation : Invocation) (source : Source) (settings : Settings) :
    Outcome :=
  let run := do
    Run.tell (narrateSource source)
    invocation.command.run world settings
  let (result, progress) := run.results ⟨world.files, [], ""⟩
  let progress := progress.shown (invocation.verbose || settings.debug)
  match result with
  | .error report => failed progress report
  | .ok () => ⟨0, progress.stdout, progress.log, none, progress.files⟩

def Invocation.run (world : World) (invocation : Invocation) : Outcome :=
  let source := settingsSource world invocation
  match effectiveSettings world source with
  | .error refusal => failed ⟨world.files, [], ""⟩ (settingsReport source refusal)
  | .ok settings => runWith world invocation source settings

def versionText : String := "lintbridge 0.3.0\n"

def Other.outcome (world : World) (arguments : List OsString) : Other → Outcome
  | .misuse => ⟨2, "", [], none, world.files⟩
  | .version => ⟨0, versionText, [], none, world.files⟩
  | .help => ⟨0, world.help arguments, [], none, world.files⟩

def program (world : World) (arguments : List OsString) : Outcome :=
  match read arguments with
  | .error other => other.outcome world arguments
  | .ok invocation => invocation.run world

def call (world : World) (arguments : List String) : Outcome :=
  program world (arguments.map .ofText)

end LintAdapter.Cli
