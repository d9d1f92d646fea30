import LintAdapter.Finding
import LintAdapter.Rule.Id
import LintAdapter.Settings
import LintAdapter.Suggestion

namespace LintAdapter

/-- Stands between the fatal messages of a file: a backslash and an `n`, so that a file error stays
on one line. -/
def fatalSeparator : String := "\\n"

namespace Message

def reportedLine (message : Message) : UInt64 := message.line.getD 1

def toIssue (message : Message) (path : String) (source : Option String) : Issue where
  path := path
  text := message.text
  patternId := Rule.toPlatformIdOrPlaceholder message.ruleId
  line := message.reportedLine
  suggestion := source.bind fun source =>
    Suggestion.compute source message.reportedLine message.endLine message.fix message.alternatives

end Message

namespace Batch

def toFileError (batch : Batch) : FileError where
  path := batch.path
  text := fatalSeparator.intercalate ((batch.messages.filter (·.fatal)).map (·.text))

def suggestionSource (batch : Batch) (suggestions : Bool) : Option String :=
  if suggestions then batch.source else none

def findings (suggestions : Bool) (batch : Batch) : List Finding :=
  if batch.isFatal then [.fileError batch.toFileError]
  else batch.messages.map fun message =>
    .issue (message.toIssue batch.path (batch.suggestionSource suggestions))

end Batch

def Finding.ofBatches (suggestions : Bool) (batches : List Batch) : List Finding :=
  batches.flatMap (Batch.findings suggestions)

def Settings.convert (settings : Settings) (batches : List Batch) : List Finding :=
  Finding.ofBatches settings.suggestions batches

end LintAdapter
