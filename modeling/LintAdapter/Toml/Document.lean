import LintAdapter.Toml.Quoted
import LintAdapter.Toml.Table

namespace LintAdapter.Toml

open Quoted (isPlain isSpace)

def skipSpace (text : List Char) : List Char := text.dropWhile isSpace

def skipLayout (inComment : Bool) : List Char → List Char
  | [] => []
  | '\n' :: rest => skipLayout false rest
  | '\r' :: '\n' :: rest => skipLayout false rest
  | c :: rest =>
    if inComment then if isPlain c then skipLayout true rest else c :: rest
    else if c = '#' then skipLayout true rest
    else if isSpace c then skipLayout false rest
    else c :: rest

def afterLine? (text : List Char) : Option (List Char) :=
  let text := skipSpace text
  let text := match text with
    | '#' :: comment => comment.dropWhile isPlain
    | _ => text
  match text with
  | [] => some []
  | '\n' :: rest => some rest
  | '\r' :: '\n' :: rest => some rest
  | _ => none

def isBareChar (c : Char) : Bool := c.isAlphanum || c == '_' || c == '-'

def name? (text : List Char) : Option (String × List Char) :=
  match Quoted.line? text with
  | some (name, rest) => some (String.ofList name, rest)
  | none =>
    match text.takeWhile isBareChar with
    | [] => none
    | name => some (String.ofList name, text.dropWhile isBareChar)

def names? : (fuel : Nat) → List Char → Option (List String × List Char)
  | 0, _ => none
  | fuel + 1, text => do
    let (name, rest) ← name? (skipSpace text)
    match skipSpace rest with
    | '.' :: rest => do
      let (names, rest) ← names? fuel rest
      return (name :: names, rest)
    | rest => return ([name], rest)

/-- A key has fewer names than this, and values are nested less deeply than this. -/
def depthLimit : Nat := 80

def key? (text : List Char) : Option (List String × String × List Char) := do
  let (names, rest) ← names? (text.length + 1) text
  if depthLimit ≤ names.length then none
  return (names.dropLast, ← names.getLast?, rest)

def scalar? (text : List Char) : Option (Value × List Char) :=
  match text with
  | '"' :: _ | '\'' :: _ => (Quoted.string? text).map fun (string, rest) =>
    (.string (String.ofList string), rest)
  | _ => Scalar.scan? text

def pair? (item? : List Char → Option (Value × List Char)) (text : List Char) :
    Option (Pair × List Char) := do
  let (path, name, rest) ← key? text
  match rest with
  | '=' :: rest => do
    let (value, rest) ← item? (skipSpace rest)
    return (⟨path, name, value⟩, rest)
  | _ => none

def items? (item? : List Char → Option (Value × List Char)) :
    (fuel : Nat) → List Char → Option (List Value × List Char)
  | 0, _ => none
  | fuel + 1, text =>
    match skipLayout false text with
    | ']' :: rest => some ([], rest)
    | text => do
      let (item, rest) ← item? text
      match skipLayout false rest with
      | ']' :: rest => return ([item], rest)
      | ',' :: rest => do
        let (items, rest) ← items? item? fuel rest
        return (item :: items, rest)
      | _ => none

def inlinePairs? (item? : List Char → Option (Value × List Char)) :
    (fuel : Nat) → List Char → Option (List Pair × List Char)
  | 0, _ => none
  | fuel + 1, text => do
    let (pair, rest) ← pair? item? text
    match skipSpace rest with
    | '\x7d' :: rest => return ([pair], rest)
    | ',' :: rest => do
      let (pairs, rest) ← inlinePairs? item? fuel rest
      return (pair :: pairs, rest)
    | _ => none

def inlineTable? (item? : List Char → Option (Value × List Char)) (text : List Char) :
    Option (Value × List Char) :=
  match skipSpace text with
  | '\x7d' :: rest => some (.table [], rest)
  | text => do
    let (pairs, rest) ← inlinePairs? item? (text.length + 1) text
    let entries ← Entries.defineAll [] pairs
    return (.table (entryValues entries), rest)

def value? : (room : Nat) → List Char → Option (Value × List Char)
  | 0, text => scalar? text
  | room + 1, text =>
    match text with
    | '[' :: rest => do
      let (items, rest) ← items? (value? room) (rest.length + 1) rest
      return (.array items, rest)
    | '\x7b' :: rest => inlineTable? (value? room) rest
    | _ => scalar? text

inductive Line where
  | header (header : Header)
  | pair (pair : Pair)

def header? (repeated : Bool) (text : List Char) : Option (Line × List Char) := do
  let (path, name, rest) ← key? text
  let line := Line.header ⟨repeated, path, name⟩
  match repeated, rest with
  | false, ']' :: rest => return (line, rest)
  | true, ']' :: ']' :: rest => return (line, rest)
  | _, _ => none

def line? (text : List Char) : Option (Line × List Char) :=
  match text with
  | '[' :: '[' :: rest => header? true rest
  | '[' :: rest => header? false rest
  | _ => (pair? (value? (depthLimit - 1)) text).map fun (pair, rest) => (.pair pair, rest)

def lines? : (fuel : Nat) → List Char → Option (List Line)
  | 0, _ => none
  | fuel + 1, text =>
    match skipSpace text with
    | [] => some []
    | text =>
      match text with
      | '#' :: _ | '\n' :: _ | '\r' :: _ => do lines? fuel (← afterLine? text)
      | _ => do
        let (line, rest) ← line? text
        let rest ← afterLine? rest
        return line :: (← lines? fuel rest)

def sections : List Line → List Pair × List (Header × List Pair)
  | [] => ([], [])
  | .pair pair :: rest => (pair :: (sections rest).1, (sections rest).2)
  | .header header :: rest => ([], (header, (sections rest).1) :: (sections rest).2)

def tableOf? (lines : List Line) : Option Entries := do
  let (top, rest) := sections lines
  let entries ← Entries.defineAll [] top
  rest.foldlM (fun entries (header, pairs) => entries.addTable header pairs) entries

def withoutMark : List Char → List Char
  | c :: rest => if c = '\ufeff' then rest else c :: rest
  | [] => []

def parse? (text : String) : Option (List (String × Value)) := do
  let text := withoutMark text.toList
  let lines ← lines? (text.length + 1) text
  return entryValues (← tableOf? lines)

end LintAdapter.Toml
