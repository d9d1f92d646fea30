import LintAdapter.Files.Tree
import LintAdapter.Toml.Document

namespace LintAdapter

structure Settings where
  debug : Bool
  suggestions : Bool
  catalog : Option OsString
  exclude : List String
  deriving DecidableEq

namespace Settings

def default : Settings := ⟨false, false, none, []⟩

inductive Refusal where
  | file (path : OsString) (failure : Files.Failure)
  | content

def Refusal.message : Refusal → String
  | .file path failure => "Failed to read config file " ++ path.display ++ ": " ++ failure.message
  | .content => "Failed to parse config:"

def flag? : Toml.Value → Option Bool
  | .bool value => some value
  | _ => none

def string? : Toml.Value → Option String
  | .string value => some value
  | _ => none

def member? (members : List (String × Toml.Value)) (name : String)
    (read? : Toml.Value → Option α) (default : α) : Option α :=
  match members.lookup name with
  | none => some default
  | some value => read? value

def path? (value : Toml.Value) : Option OsString := (string? value).map .ofText

def strings? : Toml.Value → Option (List String)
  | .array items => items.mapM string?
  | _ => none

/-- The exclude patterns of the analyzer section: a table, or a list of its members in order. A date
is taken for a table without them. -/
def exclude? : Toml.Value → Option (List String)
  | .table members => member? members "exclude" strings? []
  | .array [] => some []
  | .array (first :: _) => strings? first
  | .dateTime _ => some []
  | _ => none

def ofMembers? (members : List (String × Toml.Value)) : Option Settings := do
  return {
    debug := ← member? members "debug" flag? false
    suggestions := ← member? members "suggestions" flag? false
    catalog := ← member? members "catalog" (fun value => some <$> path? value) none
    exclude := ← member? members "analyzer" exclude? [] }

def ofText (text : String) : Except Refusal Settings :=
  match (Toml.parse? text).bind ofMembers? with
  | some settings => .ok settings
  | none => .error .content

/-- A relative catalog is relative to the directory of the settings file. -/
def rebase (settings : Settings) (path : OsString) : Settings :=
  match settings.catalog, Files.Path.parent? path with
  | some catalog, some directory =>
    { settings with catalog := some (Files.Path.join directory catalog) }
  | _, _ => settings

def load (files : Files.Tree) (path : OsString) : Except Refusal Settings :=
  match files.read path with
  | .error failure => .error (.file path failure)
  | .ok text => (·.rebase path) <$> ofText text

abbrev Environment := List (String × String)

def debugVariable : String := "DEBUG"

def suggestionsVariable : String := "SUGGESTIONS"

def isOn (environment : Environment) (name : String) : Bool :=
  environment.lookup name == some "true"

def overlay (settings : Settings) (environment : Environment) : Settings :=
  { settings with
    debug := settings.debug || isOn environment debugVariable
    suggestions := settings.suggestions || isOn environment suggestionsVariable }

end Settings

end LintAdapter
