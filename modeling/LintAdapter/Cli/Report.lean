namespace LintAdapter.Cli

structure Report where
  message : String
  causes : List String
  deriving DecidableEq

namespace Report

def indentRest (space : String) (text : String) : String :=
  ("\n" ++ space).intercalate (text.splitOn "\n")

def numbered (position : Nat) (cause : String) : String :=
  let digits := toString position
  "\n" ++ String.ofList (List.replicate (5 - digits.length) ' ') ++ digits ++ ": " ++
    indentRest "       " cause

def causeLines : List String → String
  | [] => ""
  | [cause] => "\n\nCaused by:\n    " ++ indentRest "    " cause
  | causes => "\n\nCaused by:" ++
    String.join (causes.zipIdx.map fun (cause, position) => numbered position cause)

def text (report : Report) : String := "Error: " ++ report.message ++ causeLines report.causes

end Report

end LintAdapter.Cli
