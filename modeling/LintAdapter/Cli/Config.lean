import LintAdapter.Cli.Run
import LintAdapter.Json.Printer
import LintAdapter.Synthesis.Narrative

namespace LintAdapter.Cli

open Files (Tree)
open Json (Value)
open LogEntry (debug info)

def mountedRequest : OsString := "/.codacyrc"

def requestPath? (files : Tree) (given : Option OsString) : Option OsString :=
  given.or (if files.isFile mountedRequest then some mountedRequest else none)

def requestCauses : Request.Refusal → List String
  | .file path failure => [(Request.Refusal.file path failure).message, failure.message]
  | .content fault => [(Request.Refusal.content fault).message]

def catalogCauses : Catalog.Failure → List String
  | .file path failure => [(Catalog.Failure.file path failure).message, failure.message]
  | other => [other.message]

def synthesisCauses (failure : Configuration.Failure) : List String :=
  failure.message :: match failure with
    | .repositoryNotFound _ => []
    | .registry cause => catalogCauses cause

def loadRequest (files : Tree) (given : Option OsString) : Run Request :=
  match requestPath? files given with
  | none => pure .empty
  | some path => do
    Run.tell [debug ("Reading request " ++ path.display)]
    Run.need ("Failed to load request: " ++ path.display) requestCauses (Request.load files path)

def loadCatalog (files : Tree) (path : OsString) : Run (List Catalog.Entry) := do
  let entries ← Run.need ("Failed to load rule catalog: " ++ path.display) catalogCauses
    (Catalog.load files path)
  Run.tell [debug ("Loaded rule catalog with " ++ toString entries.length ++ " rules")]
  return entries

def openRegistry (files : Tree) : (catalog : Option OsString) → Run Registry
  | none => pure .unavailable
  | some path => do
    let entries ← loadCatalog files path
    Run.tell [debug ("Loaded " ++ toString entries.length ++ " rules from " ++ path.display)]
    return .ok entries

def configuration (files : Tree) (settings : Settings) (repository : OsString)
    (request catalog : Option OsString) : Run (Configuration × List String) := do
  let request ← loadRequest files request
  let registry ← openRegistry files (catalog.or settings.catalog)
  Run.tell (Configuration.narrate files repository request registry)
  let (options, globs) ← Run.need ("Failed to create ESLint config for " ++ repository.display)
    synthesisCauses (Configuration.create files repository request registry settings)
  Run.tell [info ("Created " ++ options.origin.name ++ " config with " ++
    toString options.rules.length ++ " rule(s)")]
  return (options, globs)

def configurationValue (options : Configuration) (globs : List String) : Value :=
  .object [("options", options.toValue), ("files", .list (globs.map .text))]

/-- The text of the document. A directory that is not text has none. -/
def documentText (options : Configuration) (globs : List String) (pretty : Bool) :
    Except String String :=
  if options.isPrintable then
    let document := configurationValue options globs
    .ok (if pretty then document.pretty else document.compact)
  else .error "path contains invalid UTF-8 characters"

def printConfiguration (options : Configuration) (globs : List String) (pretty : Bool) : Run Unit :=
  match documentText options globs pretty with
  | .ok text => Run.print (text ++ "\n")
  | .error message => Run.fail message []

def runConfig (files : Tree) (settings : Settings) (repository : OsString)
    (request catalog : Option OsString) (pretty : Bool) : Run Unit := do
  let (options, globs) ← configuration files settings repository request catalog
  printConfiguration options globs pretty

end LintAdapter.Cli
