import LintAdapter.Toml.Scalar

namespace LintAdapter.Toml.Quoted

open Scalar (isHexDigit numberOf)

def isPlain (c : Char) : Bool := c == '\t' || (' ' ≤ c && c != '\x7f')

def isSpace (c : Char) : Bool := c == ' ' || c == '\t'

def charOf? (code : Nat) : Option Char :=
  if code < 0xd800 ∨ (0xe000 ≤ code ∧ code < 0x110000) then some (Char.ofNat code) else none

def hexChar? (digits : List Char) : Option Char :=
  if digits.all isHexDigit then charOf? (numberOf 16 digits) else none

def shortEscape? : Char → Option Char
  | 'b' => some '\x08'
  | 't' => some '\t'
  | 'n' => some '\n'
  | 'f' => some '\x0c'
  | 'r' => some '\r'
  | '"' => some '"'
  | '\\' => some '\\'
  | _ => none

def before (c : Char) (read : Option (List Char × List Char)) : Option (List Char × List Char) :=
  read.map fun (text, rest) => (c :: text, rest)

def basic? : List Char → Option (List Char × List Char)
  | [] => none
  | '"' :: rest => some ([], rest)
  | '\\' :: 'u' :: a :: b :: c :: d :: rest => do
    before (← hexChar? [a, b, c, d]) (basic? rest)
  | '\\' :: 'U' :: a :: b :: c :: d :: e :: f :: g :: h :: rest => do
    before (← hexChar? [a, b, c, d, e, f, g, h]) (basic? rest)
  | '\\' :: c :: rest => do before (← shortEscape? c) (basic? rest)
  | c :: rest => if isPlain c && c != '\\' then before c (basic? rest) else none

def literal? : List Char → Option (List Char × List Char)
  | [] => none
  | '\'' :: rest => some ([], rest)
  | c :: rest => if isPlain c then before c (literal? rest) else none

def afterLineBreaks? : List Char → Option (List Char)
  | '\n' :: rest => some ((afterLineBreaks? rest).getD (rest.dropWhile isSpace))
  | '\r' :: '\n' :: rest => some ((afterLineBreaks? rest).getD (rest.dropWhile isSpace))
  | c :: rest => if isSpace c then afterLineBreaks? rest else none
  | [] => none

theorem dropWhile_length (p : Char → Bool) (text : List Char) :
    (text.dropWhile p).length ≤ text.length :=
  (List.dropWhile_suffix p).length_le

theorem afterLineBreaks?_length {text rest : List Char} (found : afterLineBreaks? text = some rest) :
    rest.length < text.length := by
  fun_induction afterLineBreaks? text generalizing rest with
  | case1 text ih =>
    simp only [Option.some.injEq] at found
    subst found
    cases after : afterLineBreaks? text with
    | none =>
      have := dropWhile_length isSpace text
      simp only [Option.getD_none, List.length_cons]; omega
    | some => simp only [Option.getD_some, List.length_cons]; have := ih after; omega
  | case2 text ih =>
    simp only [Option.some.injEq] at found
    subst found
    cases after : afterLineBreaks? text with
    | none =>
      have := dropWhile_length isSpace text
      simp only [Option.getD_none, List.length_cons]; omega
    | some => simp only [Option.getD_some, List.length_cons]; have := ih after; omega
  | case3 _ _ _ _ _ ih => have := ih found; simp only [List.length_cons]; omega
  | case4 => simp at found
  | case5 => simp at found

def closing? (quote : Char) (text : List Char) : Option (List Char × List Char) :=
  let count := min (text.takeWhile (· == quote)).length 5
  if count < 3 then none else some (List.replicate (count - 3) quote, text.drop count)

def multilineBasic? (text : List Char) : Option (List Char × List Char) :=
  match closing? '"' text with
  | some closed => some closed
  | none =>
    match text with
    | [] => none
    | '\r' :: '\n' :: rest => before '\n' (multilineBasic? rest)
    | '\n' :: rest => before '\n' (multilineBasic? rest)
    | '\\' :: 'u' :: a :: b :: c :: d :: rest => do
      before (← hexChar? [a, b, c, d]) (multilineBasic? rest)
    | '\\' :: 'U' :: a :: b :: c :: d :: e :: f :: g :: h :: rest => do
      before (← hexChar? [a, b, c, d, e, f, g, h]) (multilineBasic? rest)
    | '\\' :: rest =>
      match found : afterLineBreaks? rest with
      | some after =>
        have := afterLineBreaks?_length found
        multilineBasic? after
      | none =>
        match rest with
        | [] => none
        | c :: rest => do before (← shortEscape? c) (multilineBasic? rest)
    | c :: rest => if isPlain c then before c (multilineBasic? rest) else none
termination_by text.length

def multilineLiteral? (text : List Char) : Option (List Char × List Char) :=
  match closing? '\'' text with
  | some closed => some closed
  | none =>
    match text with
    | [] => none
    | '\r' :: '\n' :: rest => before '\n' (multilineLiteral? rest)
    | '\n' :: rest => before '\n' (multilineLiteral? rest)
    | c :: rest => if isPlain c then before c (multilineLiteral? rest) else none

def afterFirstBreak : List Char → List Char
  | '\n' :: rest => rest
  | '\r' :: '\n' :: rest => rest
  | text => text

def line? : List Char → Option (List Char × List Char)
  | '"' :: rest => basic? rest
  | '\'' :: rest => literal? rest
  | _ => none

def string? : List Char → Option (List Char × List Char)
  | '"' :: '"' :: '"' :: rest => multilineBasic? (afterFirstBreak rest)
  | '\'' :: '\'' :: '\'' :: rest => multilineLiteral? (afterFirstBreak rest)
  | text => line? text

end LintAdapter.Toml.Quoted
