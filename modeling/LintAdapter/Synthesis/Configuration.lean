import LintAdapter.Catalog
import LintAdapter.Request
import LintAdapter.Rule.Exclusion
import LintAdapter.Rule.Id
import LintAdapter.Settings
import LintAdapter.Synthesis.Block

namespace LintAdapter

open Json (Value)
open Rule (Setting)

inductive Origin where
  | delegated
  | recommended
  | selection
  deriving DecidableEq

def Origin.name : Origin → String
  | .delegated => "delegated"
  | .recommended => "recommended"
  | .selection => "selection"

structure Configuration where
  directory : OsString
  ignorePatterns : List String
  /-- The repository's configuration that is used; without one none is looked for. -/
  repositoryFile : Option String
  /-- The blocks of rules, none when the repository's configuration alone is used. -/
  blocks : Option (List Block)
  origin : Origin

namespace Configuration

def repositoryNames : List String := [
  ".eslint.config.js", ".eslint.config.mjs", ".eslint.config.cjs",
  "eslint.config.js", "eslint.config.mjs", "eslint.config.cjs",
  "eslint.config.ts", "eslint.config.mts", "eslint.config.cts"]

def repositoryFile? (files : Files.Tree) (repository : OsString) : Option String :=
  repositoryNames.find? fun name => files.isFile (Files.Path.join repository name)

def builtInIgnores : List String := [
  "**/node_modules/**", "dist/**", "bin/**", "build/**", "tests/**", "vendor/**",
  "**/tsconfig.json", "**/.eslintrc*", "**/package-lock.json", "**/yarn.lock",
  "**/pnpm-lock.yaml"]

def ignores (exclude : List String) : List String :=
  exclude.foldl (fun patterns extra =>
    if patterns.contains extra then patterns else patterns ++ [extra]) builtInIgnores

def defaultFiles : List String := ["**/*.ts", "**/*.tsx", "**/*.js", "**/*.jsx", "**/*.json"]

def filesFor (request : Request) : List String := request.fileSelection?.getD defaultFiles

def selectedRules (patterns : List Pattern) : RuleSettings :=
  patterns.map fun pattern => (Rule.ofPlatformId pattern.id, pattern.setting)

def isRecommended (entry : Catalog.Entry) : Bool :=
  !Rule.isUnsupported entry.id && !entry.metadata.deprecated && entry.metadata.recommended

def recommendedRules (entries : List Catalog.Entry) : RuleSettings :=
  (entries.filter isRecommended).map fun entry => (entry.id, entry.metadata.defaultSetting)

inductive Failure where
  | repositoryNotFound (path : OsString)
  | registry (failure : Catalog.Failure)

namespace Failure

def message : Failure → String
  | .repositoryNotFound path => "Repository not found: " ++ path.display
  | .registry _ => "Failed to expand recommended rules"

def cause? : Failure → Option String
  | .repositoryNotFound _ => none
  | .registry failure => some failure.message

def code : Failure → String
  | .repositoryNotFound _ => "lintbridge::synthesize::repository"
  | .registry _ => "lintbridge::synthesize::registry"

def help : Failure → String
  | .repositoryNotFound _ => "pass the root directory of the checked-out repository"
  | .registry _ =>
    "set `catalog` in lintbridge.toml, or select rules explicitly in the request"

end Failure

def ofDirectory (repository : OsString) (own : Option String) (exclude : List String)
    (selection : Option (List Pattern)) (registry : Registry) : Except Failure Configuration :=
  match selection, own with
  | some patterns, own => .ok {
      directory := repository
      ignorePatterns := ignores exclude
      repositoryFile := own
      blocks := some (Block.ofRules (selectedRules patterns))
      origin := .selection }
  | none, some name => .ok {
      directory := repository
      ignorePatterns := ignores exclude
      repositoryFile := some name
      blocks := none
      origin := .delegated }
  | none, none =>
    match registry with
    | .error failure => .error (.registry failure)
    | .ok entries => .ok {
        directory := repository
        ignorePatterns := ignores exclude
        repositoryFile := none
        blocks := some (Block.ofRules (recommendedRules entries))
        origin := .recommended }

def create (files : Files.Tree) (repository : OsString) (request : Request) (registry : Registry)
    (settings : Settings) : Except Failure (Configuration × List String) :=
  if files.isDirectory repository then do
    let configuration ← ofDirectory repository (repositoryFile? files repository) settings.exclude
      request.selection? registry
    return (configuration, filesFor request)
  else .error (.repositoryNotFound repository)

def rules (configuration : Configuration) : RuleSettings :=
  (configuration.blocks.getD []).flatMap Block.enabled

def overrideValue : Option String → Value
  | some name => .text name
  | none => .bool true

/-- Whether there is a text for each member. Only text can be printed as the directory. -/
def isPrintable (configuration : Configuration) : Bool := configuration.directory.isText

def toValue (configuration : Configuration) : Value :=
  .object ([
    ("cwd", .text configuration.directory.display),
    ("errorOnUnmatchedPattern", .bool false),
    ("ignorePatterns", .list (configuration.ignorePatterns.map .text)),
    ("passOnNoPatterns", .bool true),
    ("warnIgnored", .bool false),
    ("overrideConfigFile", overrideValue configuration.repositoryFile)] ++
    Value.optionalMember "baseConfig" (fun blocks => .list (blocks.map (·.toValue)))
      configuration.blocks)

end Configuration

end LintAdapter
