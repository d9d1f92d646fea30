import LintAdapter.Cli.Arguments
import LintAdapter.Cli.Run
import LintAdapter.Conversion
import LintAdapter.Settings
import LintAdapter.Text.Blank

namespace LintAdapter.Cli

open Files (Tree)
open LogEntry (debug)

def decodeInput (input : ByteArray) : Except Files.Failure String :=
  match String.fromUTF8? input with
  | some text => .ok text
  | none => .error .notText

def readReport (files : Tree) (stdin : ByteArray) : (input : Option OsString) → Run String
  | some path => Run.need ("Failed to read " ++ path.display) ([·.message]) (files.read path)
  | none => Run.need "Failed to read stdin" ([·.message]) (decodeInput stdin)

def narrateConversion (settings : Settings) (batches : List Batch) : List LogEntry :=
  ((batches.filter (·.isFatal)).map fun batch =>
    debug (batch.path ++ ": " ++ toString batch.fatalCount ++
      " fatal error(s), skipping line messages")) ++
  [debug ("Converted " ++ toString batches.length ++ " file(s) into " ++
    toString (settings.convert batches).length ++ " result(s)")]

def convertReport (settings : Settings) (report : String) : Run (List Finding) :=
  if Text.blank report then do
    Run.tell [debug "Empty ESLint output"]
    return []
  else do
    let batches ← Run.need "Failed to parse ESLint JSON output" ([·.message])
      (Batch.allOfText report)
    Run.tell [debug ("Read results for " ++ toString batches.length ++ " file(s)")]
    Run.tell (narrateConversion settings batches)
    return settings.convert batches

def line (text : String) : String := text ++ "\n"

def jsonLine (finding : Finding) : String := line finding.toValue.compact

def red : String := "\x1b[31m"

def green : String := "\x1b[32m"

def yellow : String := "\x1b[33m"

def plain : String := "\x1b[0m"

def withoutReturn (text : String) : String :=
  match text.toList.getLast? with
  | some '\r' => String.ofList text.toList.dropLast
  | _ => text

def linesOf (text : String) : List String :=
  match (text.splitOn "\n").reverse with
  | [] => []
  | last :: before =>
    before.reverse.map withoutReturn ++ (if last.isEmpty then [] else [last])

def textLines : Finding → String
  | .issue issue => line issue.display ++
    String.join ((linesOf (issue.suggestion.getD "")).map fun text => line ("  | " ++ text))
  | .fileError error => line (red ++ error.display ++ plain)

def summary (findings : List Finding) : String :=
  let (issues, errors) := Finding.count findings
  let colour := if 0 < errors then red else if 0 < issues then yellow else green
  line (colour ++ "Found " ++ toString issues ++ " issue(s), " ++ toString errors ++
    " file error(s)" ++ plain)

def printFindings (findings : List Finding) : Format → Run Unit
  | .json => findings.forM fun finding => Run.print (jsonLine finding)
  | .text => do
    findings.forM fun finding => Run.print (textLines finding)
    Run.print (summary findings)

def runConvert (files : Tree) (settings : Settings) (stdin : ByteArray) (input : Option OsString)
    (format : Format) : Run Unit := do
  let report ← readReport files stdin input
  let findings ← convertReport settings report
  printFindings findings format

end LintAdapter.Cli
