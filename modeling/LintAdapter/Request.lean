import LintAdapter.Files.Tree
import LintAdapter.Json.Decoder
import LintAdapter.Rule.Setting

namespace LintAdapter

open Json (Value Fault Decoder)
open Rule (Parameter Setting)

structure Pattern where
  id : String
  parameters : Option (List Parameter)

structure Section where
  name : String
  patterns : Option (List Pattern)

structure Request where
  files : Option (List String)
  tools : Option (List Section)

namespace Json.Decoder

def parameter : Decoder Parameter := Record.decode {
  name := "Parameter"
  blank := ⟨"", .null⟩
  fields := [
    .required "name" text fun name record => { record with name },
    .optional "value" value fun value record => { record with value }] }

def pattern : Decoder Pattern := Record.decode {
  name := "Pattern"
  blank := ⟨"", none⟩
  fields := [
    .required "patternId" text fun id record => { record with id },
    .optional "parameters" (optional (list parameter)) fun parameters record =>
      { record with parameters }] }

def tool : Decoder Section := Record.decode {
  name := "ToolSelection"
  blank := ⟨"", none⟩
  fields := [
    .optional "name" text fun name record => { record with name },
    .optional "patterns" (optional (list pattern)) fun patterns record =>
      { record with patterns }] }

def request : Decoder Request := Record.decode {
  name := "PlatformRequest"
  blank := ⟨none, none⟩
  fields := [
    .optional "files" (optional (list text)) fun files record => { record with files },
    .optional "tools" (optional (list tool)) fun tools record => { record with tools }] }

end Json.Decoder

def Pattern.toValue (pattern : Pattern) : Value :=
  .object (("patternId", .text pattern.id) ::
    Value.optionalMember "parameters" (fun parameters => .list (parameters.map (·.toValue)))
      pattern.parameters)

def Pattern.setting (pattern : Pattern) : Setting := .ofParameters pattern.parameters

def Section.toValue (tool : Section) : Value :=
  .object (("name", .text tool.name) ::
    Value.optionalMember "patterns" (fun patterns => .list (patterns.map (·.toValue)))
      tool.patterns)

namespace Request

def empty : Request := ⟨none, none⟩

def ofText (text : String) : Except Fault Request := Decoder.document Decoder.request text

def toValue (request : Request) : Value :=
  .object (Value.optionalMember "files" (fun files => .list (files.map .text)) request.files ++
    Value.optionalMember "tools" (fun tools => .list (tools.map (·.toValue))) request.tools)

def toolName : String := "eslint"

def tool? (request : Request) : Option Section :=
  match request.tools with
  | some tools => (tools.find? (·.name = toolName)).or tools.head?
  | none => none

def nonempty? : Option (List α) → Option (List α)
  | some (a :: rest) => some (a :: rest)
  | _ => none

def selection? (request : Request) : Option (List Pattern) :=
  nonempty? (request.tool?.bind (·.patterns))

def fileSelection? (request : Request) : Option (List String) := nonempty? request.files

inductive Refusal where
  | file (path : OsString) (failure : Files.Failure)
  | content (fault : Fault)

def Refusal.message : Refusal → String
  | .file path failure => "Failed to read request file " ++ path.display ++ ": " ++ failure.message
  | .content fault => "Failed to parse request: " ++ fault.message

def load (files : Files.Tree) (path : OsString) : Except Refusal Request :=
  match files.read path with
  | .error failure => .error (.file path failure)
  | .ok text => match ofText text with
    | .error fault => .error (.content fault)
    | .ok request => .ok request

end Request

end LintAdapter
