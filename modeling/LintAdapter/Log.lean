import LintAdapter.Text.Quoted

namespace LintAdapter

inductive Level where
  | debug
  | info
  | warn
  deriving DecidableEq

structure LogEntry where
  level : Level
  text : String
  deriving DecidableEq

def Level.name : Level → String
  | .debug => "DEBUG"
  | .info => "INFO"
  | .warn => "WARN"

namespace LogEntry

def debug (text : String) : LogEntry := ⟨.debug, text⟩

def info (text : String) : LogEntry := ⟨.info, text⟩

def warn (text : String) : LogEntry := ⟨.warn, text⟩

def isShown (verbose : Bool) (entry : LogEntry) : Bool := verbose || entry.level != .debug

def shownChar (c : Char) : List Char :=
  if c = '\x1b' then ['\\', 'x', '1', 'b']
  else if c = '\x07' then ['\\', 'x', '0', '7']
  else if c = '\x08' then ['\\', 'x', '0', '8']
  else if c = '\x0c' then ['\\', 'x', '0', 'c']
  else if c = '\x7f' then ['\\', 'x', '7', 'f']
  else if '\x80' ≤ c ∧ c ≤ '\u009f' then Text.numbered c
  else [c]

def display (entry : LogEntry) : String :=
  entry.level.name ++ " " ++ String.ofList (entry.text.toList.flatMap shownChar)

end LogEntry

end LintAdapter
