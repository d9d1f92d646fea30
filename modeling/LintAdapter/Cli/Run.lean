import LintAdapter.Cli.Report
import LintAdapter.Files.Tree
import LintAdapter.Log

namespace LintAdapter.Cli

/-- What a call has done so far. It stays also when the call fails. -/
structure Progress where
  files : Files.Tree
  log : List LogEntry
  stdout : String

abbrev Run := ExceptT Report (StateM Progress)

namespace Run

def tell (entries : List LogEntry) : Run Unit :=
  modify fun progress => { progress with log := progress.log ++ entries }

def print (text : String) : Run Unit :=
  modify fun progress => { progress with stdout := progress.stdout ++ text }

def leave (files : Files.Tree) : Run Unit := modify fun progress => { progress with files }

def fail (message : String) (causes : List String) : Run α := throw ⟨message, causes⟩

def need (message : String) (causes : ε → List String) : Except ε α → Run α
  | .ok a => pure a
  | .error e => fail message (causes e)

def results (run : Run α) (progress : Progress) : Except Report α × Progress :=
  (ExceptT.run run).run progress

end Run

end LintAdapter.Cli
