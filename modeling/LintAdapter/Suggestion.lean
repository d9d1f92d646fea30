import LintAdapter.Diagnostics
import LintAdapter.Text.Units

namespace LintAdapter.Suggestion

open Text (unitPosition)

def afterLineFeeds : (source : List Char) → (count : Nat) → Option Nat
  | _, 0 => some 0
  | [], _ + 1 => none
  | c :: rest, count + 1 =>
    (afterLineFeeds rest (if c = '\n' then count else count + 1)).map (· + 1)

def lineStart? (source : List Char) (line : Nat) : Option Nat :=
  afterLineFeeds source (line - 1)

def startOfLine (source : List Char) (position : Nat) : Nat :=
  position - ((source.take position).reverse.takeWhile (· ≠ '\n')).length

def endOfLine (source : List Char) (position : Nat) : Nat :=
  position + ((source.drop position).takeWhile (· ≠ '\n')).length

def plainLineFeeds : List Char → List Char
  | '\r' :: '\n' :: rest => '\n' :: plainLineFeeds rest
  | c :: rest => c :: plainLineFeeds rest
  | [] => []

def dropFinalReturn (text : List Char) : List Char :=
  if text.getLast? = some '\r' then text.dropLast else text

structure Window where
  first : Nat
  start : Nat
  stop : Nat
  last : Nat
  deriving DecidableEq

/-- The window of a fix reported for the lines from `line` to `endLine`. There is none when the fix
does not fit the source or the first line is not in it; a last line beyond the source is its end. -/
def window? (source : List Char) (line : Nat) (endLine : Option Nat) (fix : Fix) :
    Option Window := do
  if fix.stop < fix.start then none
  let start ← unitPosition source fix.start.toNat
  let stop ← unitPosition source fix.stop.toNat
  let firstLine := max line 1
  let lastLine := max (endLine.getD firstLine) firstLine
  let reportedStart ← lineStart? source firstLine
  let reportedEnd := endOfLine source ((lineStart? source lastLine).getD source.length)
  return {
    first := min reportedStart (startOfLine source start)
    start
    stop
    last := max reportedEnd (endOfLine source stop) }

def Window.applyFix (window : Window) (source : List Char) (replacement : List Char) : List Char :=
  (source.take window.start).drop window.first ++ replacement ++
    (source.take window.last).drop window.stop

def chosenFix? (fix : Option Fix) (alternatives : Option (List Alternative)) : Option Fix :=
  fix.or ((alternatives.bind List.head?).map (·.fix))

def compute (source : String) (line : UInt64) (endLine : Option UInt64) (fix : Option Fix)
    (alternatives : Option (List Alternative)) : Option String := do
  let fix ← chosenFix? fix alternatives
  let window ← window? source.toList line.toNat (endLine.map UInt64.toNat) fix
  let lines := window.applyFix source.toList fix.text.toList
  return String.ofList (dropFinalReturn (plainLineFeeds lines))

end LintAdapter.Suggestion
