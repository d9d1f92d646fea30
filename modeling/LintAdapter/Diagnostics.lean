import LintAdapter.Json.Decoder

namespace LintAdapter

open Json (Value Fault Decoder)

/-- Replaces the text between two offsets, which count UTF-16 units. -/
structure Fix where
  start : UInt64
  stop : UInt64
  text : String
  deriving DecidableEq

structure Alternative where
  description : String
  fix : Fix
  deriving DecidableEq

structure Message where
  ruleId : Option String
  text : String
  line : Option UInt64
  endLine : Option UInt64
  fatal : Bool
  fix : Option Fix
  alternatives : Option (List Alternative)
  deriving DecidableEq

structure Batch where
  path : String
  messages : List Message
  fatalCount : Nat
  source : Option String
  deriving DecidableEq

namespace Message

def blank : Message := ⟨none, "", none, none, false, none, none⟩

def ofFatal (text : String) : Message := { blank with text, fatal := true }

def addAlternative (message : Message) (alternative : Alternative) : Message :=
  { message with alternatives := some (message.alternatives.getD [] ++ [alternative]) }

end Message

namespace Batch

def ofPath (path : String) : Batch := ⟨path, [], 0, none⟩

def addMessage (batch : Batch) (message : Message) : Batch :=
  { batch with
    messages := batch.messages ++ [message]
    fatalCount := if message.fatal then batch.fatalCount + 1 else batch.fatalCount }

def setSource (batch : Batch) (source : String) : Batch := { batch with source := some source }

def isFatal (batch : Batch) : Bool := 0 < batch.fatalCount

end Batch

namespace Json.Decoder

def fix : Decoder Fix := Record.decode {
  name := "Fix"
  blank := ⟨0, 0, ""⟩
  fields := [
    .required "range" (pair count) fun (start, stop) record => { record with start, stop },
    .required "text" text fun text record => { record with text }] }

def alternative : Decoder Alternative := Record.decode {
  name := "SuggestedFix"
  blank := ⟨"", ⟨0, 0, ""⟩⟩
  fields := [
    .optional "desc" text fun description record => { record with description },
    .required "fix" fix fun fix record => { record with fix }] }

def message : Decoder Message := Record.decode {
  name := "LintMessage"
  blank := .blank
  fields := [
    .optional "ruleId" (optional text) fun ruleId record => { record with ruleId },
    .optional "message" text fun text record => { record with text },
    .optional "line" (optional count) fun line record => { record with line },
    .optional "endLine" (optional count) fun endLine record => { record with endLine },
    .optional "fatal" flag fun fatal record => { record with fatal },
    .optional "fix" (optional fix) fun fix record => { record with fix },
    .optional "suggestions" (optional (list alternative)) fun alternatives record =>
      { record with alternatives }] }

def batch : Decoder Batch := Record.decode {
  name := "DiagnosticBatch"
  blank := .ofPath ""
  fields := [
    .required "filePath" text fun path record => { record with path },
    .optional "messages" (list message) fun messages record => { record with messages },
    .optional "fatalErrorCount" count fun fatalCount record =>
      { record with fatalCount := fatalCount.toNat },
    .optional "source" (optional text) fun source record => { record with source }] }

end Json.Decoder

def Batch.allOfText (text : String) : Except Fault (List Batch) :=
  Decoder.document (Decoder.list Decoder.batch) text

def Fix.toValue (fix : Fix) : Value :=
  .object [
    ("range", .list [.ofNat fix.start.toNat, .ofNat fix.stop.toNat]),
    ("text", .text fix.text)]

def Alternative.toValue (alternative : Alternative) : Value :=
  .object [("desc", .text alternative.description), ("fix", alternative.fix.toValue)]

def Message.toValue (message : Message) : Value :=
  .object ([
    ("ruleId", .orNull .text message.ruleId),
    ("message", .text message.text),
    ("line", .orNull (fun line => .ofNat line.toNat) message.line),
    ("endLine", .orNull (fun line => .ofNat line.toNat) message.endLine),
    ("fatal", .bool message.fatal)] ++
    Value.optionalMember "fix" (·.toValue) message.fix ++
    Value.optionalMember "suggestions" (fun alternatives => .list (alternatives.map (·.toValue)))
      message.alternatives)

def Batch.toValue (batch : Batch) : Value :=
  .object ([
    ("filePath", .text batch.path),
    ("messages", .list (batch.messages.map (·.toValue))),
    ("fatalErrorCount", .ofNat batch.fatalCount)] ++
    Value.optionalMember "source" .text batch.source)

end LintAdapter
