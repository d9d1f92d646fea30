import LintAdapter.OsString

namespace LintAdapter.Cli

inductive Format where
  | json
  | text
  deriving DecidableEq

inductive Command where
  | config (repository : OsString) (request catalog : Option OsString) (pretty : Bool)
  | convert (input : Option OsString) (format : Format)
  | rule (id : String)
  | init (force : Bool)
  deriving DecidableEq

structure Invocation where
  verbose : Bool
  settingsPath : Option OsString
  command : Command
  deriving DecidableEq

inductive Other where
  | misuse
  | version
  | help
  deriving DecidableEq

inductive Action where
  | flag
  | value (accepts : OsString → Bool)
  | stop (other : Other)

structure OptionSpec where
  long : OsString
  short : Option Char
  action : Action

def isPath (value : OsString) : Bool := !value.isEmpty

def Format.ofName? (name : OsString) : Option Format :=
  if name = "json" then some .json else if name = "text" then some .text else none

def verboseOption : OptionSpec := ⟨"verbose", some 'v', .flag⟩

def settingsOption : OptionSpec := ⟨"config", some 'c', .value isPath⟩

def helpOption : OptionSpec := ⟨"help", some 'h', .stop .help⟩

def versionOption : OptionSpec := ⟨"version", some 'V', .stop .version⟩

def globalOptions : List OptionSpec := [verboseOption, settingsOption, helpOption]

structure Given where
  options : List (OsString × Option OsString)
  operands : List OsString

namespace Given

def none : Given := ⟨[], []⟩

def addOption (given : Given) (name : OsString) (value : Option OsString) : Except Other Given :=
  if (given.options.lookup name).isSome then .error .misuse
  else .ok { given with options := given.options ++ [(name, value)] }

def hasFlag (given : Given) (name : OsString) : Bool := (given.options.lookup name).isSome

def value? (given : Given) (name : OsString) : Option OsString := (given.options.lookup name).join

end Given

def looksLikeOption (argument : OsString) : Bool := (argument.after? "-").any (!·.isEmpty)

def takeNext (given : Given) (name : OsString) (accepts : OsString → Bool) :
    List OsString → Except Other (Given × List OsString)
  | value :: rest =>
    if looksLikeOption value || !accepts value then .error .misuse
    else do return (← given.addOption name (some value), rest)
  | [] => .error .misuse

def takeJoined (given : Given) (name : OsString) (accepts : OsString → Bool) (value : OsString)
    (rest : List OsString) : Except Other (Given × List OsString) :=
  if accepts value then do return (← given.addOption name (some value), rest) else .error .misuse

def takeLong (specs : List OptionSpec) (given : Given) (name : OsString)
    (joined : Option OsString) (rest : List OsString) : Except Other (Given × List OsString) :=
  match (specs.find? fun spec => spec.long = name).map OptionSpec.action, joined with
  | some .flag, none => do return (← given.addOption name none, rest)
  | some (.stop other), none => .error other
  | some (.value accepts), some value => takeJoined given name accepts value rest
  | some (.value accepts), none => takeNext given name accepts rest
  | _, _ => .error .misuse

def equalsSign : UInt8 := '='.toUInt8

/-- Options by their letters. The first that takes a value takes what follows it, an equals sign
between them aside, or the next argument. -/
def takeShort (specs : List OptionSpec) (given : Given) :
    List UInt8 → List OsString → Except Other (Given × List OsString)
  | [], rest => .ok (given, rest)
  | letter :: letters, rest =>
    match specs.find? fun spec => spec.short.map Char.toUInt8 = some letter with
    | none => .error .misuse
    | some spec =>
      match spec.action, letters with
      | .flag, letters => do takeShort specs (← given.addOption spec.long none) letters rest
      | .stop other, _ => .error other
      | .value accepts, [] => takeNext given spec.long accepts rest
      | .value accepts, first :: value =>
        takeJoined given spec.long accepts ⟨if first = equalsSign then value else first :: value⟩
          rest

def splitLong (option : OsString) : OsString × Option OsString :=
  match option.bytes.dropWhile (· ≠ equalsSign) with
  | [] => (option, none)
  | _ :: value => (⟨option.bytes.takeWhile (· ≠ equalsSign)⟩, some ⟨value⟩)

def takeOption (specs : List OptionSpec) (given : Given) (argument : OsString)
    (rest : List OsString) : Except Other (Given × List OsString) :=
  match argument.after? "--", argument.after? "-" with
  | some long, _ => takeLong specs given (splitLong long).1 (splitLong long).2 rest
  | none, some letters => takeShort specs given letters.bytes rest
  | none, none => .error .misuse

def takeOperand (wanted : List (OsString → Bool)) (given : Given) (argument : OsString) :
    Except Other Given :=
  match wanted[given.operands.length]? with
  | some accepts =>
    if accepts argument then .ok { given with operands := given.operands ++ [argument] }
    else .error .misuse
  | none => .error .misuse

/-- Reads a level. `wanted` holds a check for each argument that is no option; with `stopAtOperand`
the level ends before the first of them. Two hyphens end the options. -/
def readLevel (specs : List OptionSpec) (wanted : List (OsString → Bool)) (stopAtOperand : Bool) :
    (fuel : Nat) → Given → List OsString → Except Other (Given × List OsString)
  | 0, _, _ => .error .misuse
  | _ + 1, given, [] => .ok (given, [])
  | fuel + 1, given, argument :: rest =>
    if argument = "--" then do return (← rest.foldlM (takeOperand wanted) given, [])
    else if looksLikeOption argument then do
      let (given, rest) ← takeOption specs given argument rest
      readLevel specs wanted stopAtOperand fuel given rest
    else if stopAtOperand then .ok (given, argument :: rest)
    else do
      readLevel specs wanted stopAtOperand fuel (← takeOperand wanted given argument) rest

def readCommand (specs : List OptionSpec) (wanted : List (OsString → Bool))
    (arguments : List OsString) : Except Other Given :=
  (·.1) <$> readLevel (globalOptions ++ specs) wanted false (arguments.length + 1) .none arguments

def configOptions : List OptionSpec := [
  ⟨"request", none, .value isPath⟩, ⟨"catalog", none, .value isPath⟩, ⟨"pretty", none, .flag⟩]

def convertOptions : List OptionSpec := [
  ⟨"input", some 'i', .value isPath⟩,
  ⟨"format", some 'f', .value fun name => (Format.ofName? name).isSome⟩]

def initOptions : List OptionSpec := [⟨"force", none, .flag⟩]

def configCommand (given : Given) : Command :=
  .config (given.operands.headD ".") (given.value? "request") (given.value? "catalog")
    (given.hasFlag "pretty")

def convertCommand (given : Given) : Command :=
  .convert (given.value? "input") (((given.value? "format").bind Format.ofName?).getD .json)

def ruleCommand (given : Given) : Except Other Command :=
  match given.operands.head?.bind OsString.text? with
  | none => .error .misuse
  | some id => .ok (.rule id)

def readNamed (name : OsString) (arguments : List OsString) : Except Other (Given × Command) :=
  if name = "config" then do
    let given ← readCommand configOptions [isPath] arguments
    return (given, configCommand given)
  else if name = "convert" then do
    let given ← readCommand convertOptions [] arguments
    return (given, convertCommand given)
  else if name = "rule" then do
    let given ← readCommand [] [OsString.isText] arguments
    return (given, ← ruleCommand given)
  else if name = "init" then do
    let given ← readCommand initOptions [] arguments
    return (given, .init (given.hasFlag "force"))
  else .error .misuse

def commandNames : List OsString := ["config", "convert", "rule", "init", "help"]

def readHelp : List OsString → Other
  | [] => .help
  | [name] => if commandNames.contains name then .help else .misuse
  | _ => .misuse

def read (arguments : List OsString) : Except Other Invocation := do
  let (outer, rest) ← readLevel (versionOption :: globalOptions) [] true (arguments.length + 1)
    .none arguments
  match rest with
  | [] => .error .misuse
  | name :: rest =>
    if name = "help" then .error (readHelp rest)
    else
      let (inner, command) ← readNamed name rest
      return {
        verbose := outer.hasFlag "verbose" || inner.hasFlag "verbose"
        settingsPath := (inner.value? "config").or (outer.value? "config")
        command }

end LintAdapter.Cli
