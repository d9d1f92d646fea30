import LintAdapter.Json.Fault

namespace LintAdapter.Json

def hexFour (code : Nat) : List Char :=
  [code / 0x1000 % 16, code / 0x100 % 16, code / 0x10 % 16, code % 16].map Nat.digitChar

def escapedChar (c : Char) : List Char :=
  if c = '"' then ['\\', '"']
  else if c = '\\' then ['\\', '\\']
  else if c = '\x08' then ['\\', 'b']
  else if c = '\x0c' then ['\\', 'f']
  else if c = '\n' then ['\\', 'n']
  else if c = '\r' then ['\\', 'r']
  else if c = '\t' then ['\\', 't']
  else if c.toNat < 0x20 then '\\' :: 'u' :: hexFour c.toNat
  else [c]

def escapedString (text : List Char) : List Char :=
  '"' :: text.flatMap escapedChar ++ ['"']

namespace Value

mutual

def chars : Value → List Char
  | .null => ['n', 'u', 'l', 'l']
  | .bool true => ['t', 'r', 'u', 'e']
  | .bool false => ['f', 'a', 'l', 's', 'e']
  | .number n => n.text
  | .text s => escapedString s.toList
  | .list [] => ['[', ']']
  | .list (item :: rest) => '[' :: item.chars ++ itemChars rest
  | .object [] => ['\x7b', '\x7d']
  | .object ((name, value) :: rest) =>
    '\x7b' :: escapedString name.toList ++ ':' :: value.chars ++ memberChars rest

def itemChars : List Value → List Char
  | [] => [']']
  | item :: rest => ',' :: item.chars ++ itemChars rest

def memberChars : List (String × Value) → List Char
  | [] => ['\x7d']
  | (name, value) :: rest =>
    ',' :: escapedString name.toList ++ ':' :: value.chars ++ memberChars rest

end

def newLine (level : Nat) : List Char := '\n' :: List.replicate (2 * level) ' '

mutual

def prettyChars (level : Nat) : Value → List Char
  | .list [] => ['[', ']']
  | .list (item :: rest) =>
    '[' :: newLine (level + 1) ++ item.prettyChars (level + 1) ++ prettyItemChars level rest
  | .object [] => ['\x7b', '\x7d']
  | .object ((name, value) :: rest) =>
    '\x7b' :: newLine (level + 1) ++ escapedString name.toList ++ ':' :: ' ' ::
      value.prettyChars (level + 1) ++ prettyMemberChars level rest
  | .null => ['n', 'u', 'l', 'l']
  | .bool true => ['t', 'r', 'u', 'e']
  | .bool false => ['f', 'a', 'l', 's', 'e']
  | .number n => n.text
  | .text s => escapedString s.toList

def prettyItemChars (level : Nat) : List Value → List Char
  | [] => newLine level ++ [']']
  | item :: rest =>
    ',' :: newLine (level + 1) ++ item.prettyChars (level + 1) ++ prettyItemChars level rest

def prettyMemberChars (level : Nat) : List (String × Value) → List Char
  | [] => newLine level ++ ['\x7d']
  | (name, value) :: rest =>
    ',' :: newLine (level + 1) ++ escapedString name.toList ++ ':' :: ' ' ::
      value.prettyChars (level + 1) ++ prettyMemberChars level rest

end

def compact (value : Value) : String := String.ofList value.chars

def pretty (value : Value) : String := String.ofList (value.prettyChars 0)

end Value

end LintAdapter.Json
