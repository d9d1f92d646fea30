import LintAdapter.Json.Decoder
import LintAdapter.Json.Printer

namespace LintAdapter

open Json (Value Fault Decoder)

structure Issue where
  path : String
  text : String
  patternId : String
  line : UInt64
  suggestion : Option String
  deriving DecidableEq

structure FileError where
  path : String
  text : String
  deriving DecidableEq

inductive Finding where
  | issue (issue : Issue)
  | fileError (error : FileError)
  deriving DecidableEq

def Issue.display (issue : Issue) : String :=
  issue.path ++ ":" ++ toString issue.line.toNat ++ ": [" ++ issue.patternId ++ "] " ++ issue.text

def FileError.display (error : FileError) : String := error.path ++ ": error: " ++ error.text

def Issue.toValue (issue : Issue) : Value :=
  .object ([
    ("filename", .text issue.path),
    ("message", .text issue.text),
    ("patternId", .text issue.patternId),
    ("line", .ofNat issue.line.toNat)] ++
    Value.optionalMember "suggestion" .text issue.suggestion)

def FileError.toValue (error : FileError) : Value :=
  .object [("filename", .text error.path), ("message", .text error.text)]

def soleMember? (members : List (String × Value)) (name : String) : Option (Option Value) :=
  match members.filter (·.1 = name) with
  | [] => some none
  | [member] => some (some member.2)
  | _ => none

def textMember? (members : List (String × Value)) (name : String) : Option String :=
  match soleMember? members name with
  | some (some value) => value.text?
  | _ => none

def count? : Value → Option UInt64
  | .number (.integer value) =>
    if 0 ≤ value ∧ value < 0x10000000000000000 then some value.toNat.toUInt64 else none
  | _ => none

def optionalText? : Value → Option (Option String)
  | .null => some none
  | .text text => some (some text)
  | _ => none

namespace Issue

def ofFields? (path text patternId line suggestion : Value) : Option Issue := do
  return ⟨← path.text?, ← text.text?, ← patternId.text?, ← count? line, ← optionalText? suggestion⟩

def ofValue? : Value → Option Issue
  | .object members => do
    let path ← textMember? members "filename"
    let text ← textMember? members "message"
    let patternId ← textMember? members "patternId"
    let line ← (← soleMember? members "line").bind count?
    let suggestion ← optionalText? ((← soleMember? members "suggestion").getD .null)
    return ⟨path, text, patternId, line, suggestion⟩
  | .list [path, text, patternId, line] => ofFields? path text patternId line .null
  | .list [path, text, patternId, line, suggestion] => ofFields? path text patternId line suggestion
  | _ => none

end Issue

def FileError.ofValue? : Value → Option FileError
  | .object members => do
    return ⟨← textMember? members "filename", ← textMember? members "message"⟩
  | .list [path, text] => do return ⟨← path.text?, ← text.text?⟩
  | _ => none

namespace Finding

def path : Finding → String
  | .issue found => found.path
  | .fileError failed => failed.path

def display : Finding → String
  | .issue found => found.display
  | .fileError failed => failed.display

def toValue : Finding → Value
  | .issue found => found.toValue
  | .fileError failed => failed.toValue

def isIssue : Finding → Bool
  | .issue _ => true
  | .fileError _ => false

/-- An issue if the value is one, or else a file error. -/
def ofValue? (value : Value) : Option Finding :=
  ((Issue.ofValue? value).map .issue).or ((FileError.ofValue? value).map .fileError)

def count (findings : List Finding) : Nat × Nat :=
  (findings.countP (·.isIssue), findings.countP (!·.isIssue))

end Finding

def Json.Decoder.finding : Decoder Finding := fun room tree => do
  let value ← rawValue room tree
  match Finding.ofValue? value with
  | some finding => return finding
  | none => .error (.noVariant "ToolResult")

def Finding.allOfText (text : String) : Except Fault (List Finding) :=
  Decoder.document (Decoder.list Decoder.finding) text

end LintAdapter
