/-!
Glob patterns: what breaks their rules, and which texts they match. `**` is a whole path component,
no wildcard has more than two stars, and a character range is closed and not empty.
-/

namespace LintAdapter.Glob

inductive Cause where
  | wildcard
  | recursiveWildcard
  | range
  deriving DecidableEq

structure Flaw where
  position : Nat
  cause : Cause
  deriving DecidableEq

def Cause.message : Cause → String
  | .wildcard => "wildcards are either regular `*` or recursive `**`"
  | .recursiveWildcard => "recursive wildcards must form a single path component"
  | .range => "invalid range pattern"

def Flaw.message (flaw : Flaw) : String :=
  "Pattern syntax error near position " ++ toString flaw.position ++ ": " ++ flaw.cause.message

structure Member where
  first : Char
  last : Char
  deriving DecidableEq

inductive Token where
  | char (c : Char)
  | anyChar
  | anySequence
  | anyComponents
  | within (members : List Member)
  | without (members : List Member)
  deriving DecidableEq

def members : List Char → List Member
  | first :: '-' :: last :: rest => ⟨first, last⟩ :: members rest
  | c :: rest => ⟨c, c⟩ :: members rest
  | [] => []

def closed? (first : Char) (rest : List Char) : Option (List Char) :=
  if rest.contains ']' then some (first :: rest.takeWhile (· ≠ ']')) else none

def range? : List Char → Option (Token × Nat)
  | '!' :: first :: rest =>
    (closed? first rest).map fun text => (.without (members text), text.length + 2)
  | ['!'] => none
  | first :: rest => (closed? first rest).map fun text => (.within (members text), text.length + 1)
  | [] => none

def addComponents (tokens : List Token) : List Token :=
  if 1 < tokens.length ∧ tokens.getLast? = some .anyComponents then tokens
  else tokens ++ [.anyComponents]

/-- The tokens with the wildcard of one star or two at a position, given what follows its first
star, and how much of that belongs to it. -/
def wildcard (tokens : List Token) (position : Nat) (previous : Option Char) :
    List Char → Except Flaw (List Token × Nat)
  | '*' :: '*' :: _ => .error ⟨position + 2, .wildcard⟩
  | '*' :: rest =>
    if position ≠ 0 ∧ previous ≠ some '/' then .error ⟨position - 1, .recursiveWildcard⟩
    else match rest with
      | [] => .ok (addComponents tokens, 1)
      | '/' :: _ => .ok (addComponents tokens, 2)
      | _ => .error ⟨position + 2, .recursiveWildcard⟩
  | _ => .ok (tokens ++ [.anySequence], 0)

/-- Reads the rest of a pattern after it has skipped some characters. The tokens before, the
position and the character before it are given. -/
def readFrom (tokens : List Token) (position : Nat) (previous : Option Char) :
    (skip : Nat) → (pattern : List Char) → Except Flaw (List Token)
  | _, [] => .ok tokens
  | skip + 1, c :: rest => readFrom tokens (position + 1) (some c) skip rest
  | 0, '*' :: rest =>
    match wildcard tokens position previous rest with
    | .error flaw => .error flaw
    | .ok (tokens, skip) => readFrom tokens (position + 1) (some '*') skip rest
  | 0, '[' :: rest =>
    match range? rest with
    | none => .error ⟨position, .range⟩
    | some (token, skip) => readFrom (tokens ++ [token]) (position + 1) (some '[') skip rest
  | 0, c :: rest =>
    readFrom (tokens ++ [if c = '?' then .anyChar else .char c]) (position + 1) (some c) 0 rest

def read (pattern : String) : Except Flaw (List Token) := readFrom [] 0 none 0 pattern.toList

def flaw? (pattern : String) : Option Flaw :=
  match read pattern with
  | .ok _ => none
  | .error flaw => some flaw

def Member.holds (c : Char) (member : Member) : Bool := member.first ≤ c && c ≤ member.last

def Token.admits (token : Token) (c : Char) : Bool :=
  match token with
  | .char own => own == c
  | .anyChar => true
  | .within members => members.any (·.holds c)
  | .without members => !members.any (·.holds c)
  | .anySequence => false
  | .anyComponents => false

def anyRest (mayBegin : Char → Bool) (holds : List Char → Bool) : List Char → Bool
  | [] => false
  | c :: rest => (mayBegin c && holds rest) || anyRest mayBegin holds rest

def matchesFrom : List Token → List Char → Bool
  | [], text => text.isEmpty
  | .anySequence :: tokens, text =>
    matchesFrom tokens text || anyRest (fun _ => true) (matchesFrom tokens) text
  | .anyComponents :: tokens, text =>
    matchesFrom tokens text || anyRest (· == '/') (matchesFrom tokens) text
  | _ :: _, [] => false
  | token :: tokens, c :: text => token.admits c && matchesFrom tokens text

/-- Whether a pattern matches a text. One with a flaw matches none. -/
def isMatch (pattern text : String) : Bool :=
  match read pattern with
  | .ok tokens => matchesFrom tokens text.toList
  | .error _ => false

end LintAdapter.Glob
