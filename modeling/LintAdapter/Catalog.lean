import LintAdapter.Files.Tree
import LintAdapter.Json.Decoder
import LintAdapter.Rule.Metadata

namespace LintAdapter

open Json (Value Fault Decoder)
open Rule (Metadata)

namespace Catalog

structure Entry where
  id : String
  metadata : Metadata

inductive Refusal where
  | document (fault : Fault)
  | entry (id : String) (fault : Fault)

def Refusal.message : Refusal → String
  | .document fault => fault.message
  | .entry id fault => id ++ ": " ++ fault.message

def ofMembers : List (String × Value) → Except Refusal (List Entry)
  | [] => .ok []
  | (id, value) :: rest =>
    match Metadata.ofValue value with
    | .error fault => .error (.entry id fault)
    | .ok metadata => return ⟨id, metadata⟩ :: (← ofMembers rest)

def ofText (text : String) : Except Refusal (List Entry) :=
  match Decoder.document Decoder.members text with
  | .error fault => .error (.document fault)
  | .ok members => ofMembers members

inductive Failure where
  | file (path : OsString) (failure : Files.Failure)
  | content (refusal : Refusal)
  | unavailable (reason : String)

def Failure.message : Failure → String
  | .file path failure => "Failed to read rule catalog " ++ path.display ++ ": " ++ failure.message
  | .content refusal => "Failed to parse rule catalog: " ++ refusal.message
  | .unavailable reason => "Rule catalog unavailable: " ++ reason

def load (files : Files.Tree) (path : OsString) : Except Failure (List Entry) :=
  match files.read path with
  | .error failure => .error (.file path failure)
  | .ok text => match ofText text with
    | .error refusal => .error (.content refusal)
    | .ok entries => .ok entries

end Catalog

abbrev Registry := Except Catalog.Failure (List Catalog.Entry)

def Registry.unavailable : Registry := .error (.unavailable "no rule catalog configured")

end LintAdapter
