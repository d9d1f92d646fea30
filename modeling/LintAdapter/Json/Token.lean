namespace LintAdapter.Json

/-- A part of a string: a character that stands for itself or has a short escape, or a UTF-16 unit
given by its number. -/
inductive Piece where
  | plain (c : Char)
  | unit (value : Nat)
  deriving DecidableEq

inductive StringFlaw where
  | unfinished
  | control
  | unknownEscape
  | badUnit
  deriving DecidableEq

inductive Flaw where
  | unfinished
  | malformed
  deriving DecidableEq

structure Numeral where
  negative : Bool
  whole : List Char
  fraction : List Char
  exponent : Option (Bool × List Char)
  deriving DecidableEq

inductive Token where
  | openList
  | closeList
  | openObject
  | closeObject
  | comma
  | colon
  | null
  | bool (value : Bool)
  | numeral (value : Numeral)
  | string (pieces : List Piece)
  | badString (pieces : List Piece) (flaw : StringFlaw)
  | badNumeral (flaw : Flaw)
  | badWord (flaw : Flaw)
  | stray
  deriving DecidableEq

namespace Token

def isSpace (c : Char) : Bool := c == ' ' || c == '\t' || c == '\n' || c == '\r'

def hexDigit? (c : Char) : Option Nat :=
  if '0' ≤ c ∧ c ≤ '9' then some (c.toNat - '0'.toNat)
  else if 'a' ≤ c ∧ c ≤ 'f' then some (c.toNat - 'a'.toNat + 10)
  else if 'A' ≤ c ∧ c ≤ 'F' then some (c.toNat - 'A'.toNat + 10)
  else none

def hexUnit? (a b c d : Char) : Option Nat := do
  let a ← hexDigit? a
  let b ← hexDigit? b
  let c ← hexDigit? c
  let d ← hexDigit? d
  return ((a * 16 + b) * 16 + c) * 16 + d

def shortEscape? : Char → Option Char
  | '"' => some '"'
  | '\\' => some '\\'
  | '/' => some '/'
  | 'b' => some '\x08'
  | 'f' => some '\x0c'
  | 'n' => some '\n'
  | 'r' => some '\r'
  | 't' => some '\t'
  | _ => none

def underFourBytes (text : List Char) : Bool := (String.ofList (text.take 4)).utf8ByteSize < 4

def scanString : List Char → List Piece × Except StringFlaw (List Char)
  | [] => ([], .error .unfinished)
  | '"' :: rest => ([], .ok rest)
  | ['\\'] => ([], .error .unfinished)
  | '\\' :: 'u' :: a :: b :: c :: d :: rest =>
    match hexUnit? a b c d with
    | some value => let (pieces, result) := scanString rest; (.unit value :: pieces, result)
    | none => ([], .error .badUnit)
  | '\\' :: 'u' :: rest =>
    -- Four bytes are taken before they are looked at, so the text ends only where there are fewer.
    if underFourBytes rest then ([], .error .unfinished) else ([], .error .badUnit)
  | '\\' :: c :: rest =>
    match shortEscape? c with
    | some meant => let (pieces, result) := scanString rest; (.plain meant :: pieces, result)
    | none => ([], .error .unknownEscape)
  | c :: rest =>
    if c.toNat < 0x20 then ([], .error .control)
    else let (pieces, result) := scanString rest; (.plain c :: pieces, result)

def isDigit (c : Char) : Bool := '0' ≤ c && c ≤ '9'

def flawBefore : List Char → Flaw
  | [] => .unfinished
  | _ :: _ => .malformed

def scanDigits (text : List Char) : Except Flaw (List Char × List Char) :=
  match text.takeWhile isDigit with
  | [] => .error (flawBefore text)
  | digits => .ok (digits, text.dropWhile isDigit)

def scanFraction : List Char → Except Flaw (List Char × List Char)
  | '.' :: rest => scanDigits rest
  | text => .ok ([], text)

def scanSign : List Char → Bool × List Char
  | '+' :: rest => (false, rest)
  | '-' :: rest => (true, rest)
  | text => (false, text)

def scanExponent : List Char → Except Flaw (Option (Bool × List Char) × List Char)
  | c :: rest =>
    if c = 'e' ∨ c = 'E' then do
      let (digits, after) ← scanDigits (scanSign rest).2
      return (some ((scanSign rest).1, digits), after)
    else .ok (none, c :: rest)
  | [] => .ok (none, [])

def scanMagnitude (negative : Bool) (text : List Char) : Except Flaw (Numeral × List Char) := do
  let (whole, afterWhole) ← scanDigits text
  if whole.head? = some '0' ∧ whole.length ≠ 1 then throw .malformed
  let (fraction, afterFraction) ← scanFraction afterWhole
  let (exponent, rest) ← scanExponent afterFraction
  return (⟨negative, whole, fraction, exponent⟩, rest)

def scanWord : (expected : List Char) → List Char → Except Flaw (List Char)
  | [], text => .ok text
  | _ :: _, [] => .error .unfinished
  | e :: expected, c :: text => if c = e then scanWord expected text else .error .malformed

def ofScan (token : α → Token) (bad : Flaw → Token) :
    Except Flaw (α × List Char) → Token × Option (List Char)
  | .ok (value, rest) => (token value, some rest)
  | .error flaw => (bad flaw, none)

def ofWord (token : Token) : Except Flaw (List Char) → Token × Option (List Char)
  | .ok rest => (token, some rest)
  | .error flaw => (.badWord flaw, none)

def ofString : List Piece × Except StringFlaw (List Char) → Token × Option (List Char)
  | (pieces, .ok rest) => (.string pieces, some rest)
  | (pieces, .error flaw) => (.badString pieces flaw, none)

def scan (c : Char) (rest : List Char) : Token × Option (List Char) :=
  if c = '[' then (.openList, some rest)
  else if c = ']' then (.closeList, some rest)
  else if c = '\x7b' then (.openObject, some rest)
  else if c = '\x7d' then (.closeObject, some rest)
  else if c = ',' then (.comma, some rest)
  else if c = ':' then (.colon, some rest)
  else if c = '"' then ofString (scanString rest)
  else if c = 'n' then ofWord .null (scanWord ['u', 'l', 'l'] rest)
  else if c = 't' then ofWord (.bool true) (scanWord ['r', 'u', 'e'] rest)
  else if c = 'f' then ofWord (.bool false) (scanWord ['a', 'l', 's', 'e'] rest)
  else if c = '-' then ofScan .numeral .badNumeral (scanMagnitude true rest)
  else if isDigit c then ofScan .numeral .badNumeral (scanMagnitude false (c :: rest))
  else (.stray, none)

theorem scanString_length (text : List Char) {pieces : List Piece} {rest : List Char}
    (scanned : scanString text = (pieces, .ok rest)) : rest.length < text.length := by
  fun_induction scanString text generalizing pieces rest with
  | case1 => simp at scanned
  | case2 => simp_all
  | case3 => simp at scanned
  | case4 a b c d text value unit ps result recursive ih =>
    simp only [Prod.mk.injEq] at scanned
    have := ih (recursive.trans (by rw [scanned.2]))
    simp only [List.length_cons]; omega
  | case5 => simp at scanned
  | case6 => simp at scanned
  | case7 => simp at scanned
  | case8 c text _ _ meant short ps result recursive ih =>
    simp only [Prod.mk.injEq] at scanned
    have := ih (recursive.trans (by rw [scanned.2]))
    simp only [List.length_cons]; omega
  | case9 => simp at scanned
  | case10 => simp at scanned
  | case11 c text _ _ _ _ _ _ ps result recursive ih =>
    simp only [Prod.mk.injEq] at scanned
    have := ih (recursive.trans (by rw [scanned.2]))
    simp only [List.length_cons]; omega

theorem scanDigits_length {text digits rest : List Char}
    (scanned : scanDigits text = .ok (digits, rest)) : rest.length < text.length := by
  unfold scanDigits at scanned
  split at scanned
  · simp at scanned
  · rename_i taken nonempty
    simp only [Except.ok.injEq, Prod.mk.injEq] at scanned
    obtain ⟨_, rfl⟩ := scanned
    have split := congrArg List.length (List.takeWhile_append_dropWhile (p := isDigit) (l := text))
    have positive : 0 < (text.takeWhile isDigit).length := by
      cases taken : text.takeWhile isDigit with
      | nil => exact absurd taken nonempty
      | cons => simp
    simp only [List.length_append] at split
    omega

theorem scanFraction_length {text fraction rest : List Char}
    (scanned : scanFraction text = .ok (fraction, rest)) : rest.length ≤ text.length := by
  unfold scanFraction at scanned
  split at scanned
  · have := scanDigits_length scanned
    simp only [List.length_cons]; omega
  · simp only [Except.ok.injEq, Prod.mk.injEq] at scanned
    simp [scanned.2]

theorem scanSign_length (text : List Char) : (scanSign text).2.length ≤ text.length := by
  unfold scanSign; split <;> simp

theorem scanExponent_length {text rest : List Char} {exponent : Option (Bool × List Char)}
    (scanned : scanExponent text = .ok (exponent, rest)) : rest.length ≤ text.length := by
  unfold scanExponent at scanned
  split at scanned
  · rename_i c tail
    split at scanned
    · cases digits : scanDigits (scanSign tail).2 with
      | error => simp [digits, bind, Except.bind] at scanned
      | ok found =>
        simp only [digits, bind, Except.bind, pure, Except.pure, Except.ok.injEq,
          Prod.mk.injEq] at scanned
        have := scanDigits_length digits
        have := scanSign_length tail
        rw [← scanned.2]
        simp only [List.length_cons]; omega
    · simp only [Except.ok.injEq, Prod.mk.injEq] at scanned
      simp [← scanned.2]
  · simp only [Except.ok.injEq, Prod.mk.injEq] at scanned
    simp [← scanned.2]

theorem scanMagnitude_length {negative : Bool} {text rest : List Char} {numeral : Numeral}
    (scanned : scanMagnitude negative text = .ok (numeral, rest)) : rest.length < text.length := by
  unfold scanMagnitude at scanned
  simp only [bind, Except.bind, pure, Except.pure, throw, throwThe, MonadExceptOf.throw] at scanned
  split at scanned
  · simp at scanned
  · rename_i whole wholeScanned
    have := scanDigits_length wholeScanned
    split at scanned
    · simp at scanned
    · split at scanned
      · simp at scanned
      · rename_i fraction fractionScanned
        have := scanFraction_length fractionScanned
        split at scanned
        · simp at scanned
        · rename_i exponent exponentScanned
          have := scanExponent_length exponentScanned
          simp only [Except.ok.injEq, Prod.mk.injEq] at scanned
          rw [← scanned.2]
          omega

theorem scanWord_length (expected text : List Char) {rest : List Char}
    (scanned : scanWord expected text = .ok rest) : rest.length ≤ text.length := by
  fun_induction scanWord expected text with
  | case1 => simp_all
  | case2 => simp at scanned
  | case3 _ _ _ ih =>
    have := ih scanned
    simp only [List.length_cons]; omega
  | case4 => simp at scanned

def Leaves (bound : Nat) (scanned : Token × Option (List Char)) : Prop :=
  ∀ rest, scanned.2 = some rest → rest.length ≤ bound

theorem leaves_rest (token : Token) (rest : List Char) :
    Leaves rest.length (token, some rest) := by
  intro after equal
  cases equal
  exact Nat.le_refl _

theorem leaves_ofWord (token : Token) (expected text : List Char) :
    Leaves text.length (ofWord token (scanWord expected text)) := by
  intro rest equal
  cases result : scanWord expected text with
  | error => simp [result, ofWord] at equal
  | ok after =>
    simp only [result, ofWord, Option.some.injEq] at equal
    exact equal ▸ scanWord_length expected text result

theorem leaves_ofString (text : List Char) : Leaves text.length (ofString (scanString text)) := by
  intro rest equal
  cases result : scanString text with
  | mk pieces outcome =>
    cases outcome with
    | error => simp [result, ofString] at equal
    | ok after =>
      simp only [result, ofString, Option.some.injEq] at equal
      exact equal ▸ Nat.le_of_lt (scanString_length text result)

theorem leaves_ofScan (negative : Bool) (text : List Char) :
    Leaves (text.length - 1) (ofScan .numeral .badNumeral (scanMagnitude negative text)) := by
  intro rest equal
  cases result : scanMagnitude negative text with
  | error => simp [result, ofScan] at equal
  | ok found =>
    simp only [result, ofScan, Option.some.injEq] at equal
    have := scanMagnitude_length result
    exact equal ▸ Nat.le_sub_one_of_lt this

theorem Leaves.mono {few many : Nat} {scanned : Token × Option (List Char)} (le : few ≤ many)
    (leaves : Leaves few scanned) : Leaves many scanned :=
  fun rest equal => Nat.le_trans (leaves rest equal) le

theorem Leaves.ite {bound : Nat} {condition : Prop} [Decidable condition]
    {yes no : Token × Option (List Char)} (left : Leaves bound yes) (right : Leaves bound no) :
    Leaves bound (if condition then yes else no) := by
  split
  · exact left
  · exact right

theorem leaves_scan (c : Char) (text : List Char) : Leaves text.length (scan c text) := by
  unfold scan
  refine .ite (leaves_rest _ _) <| .ite (leaves_rest _ _) <| .ite (leaves_rest _ _) <|
    .ite (leaves_rest _ _) <| .ite (leaves_rest _ _) <| .ite (leaves_rest _ _) <|
    .ite (leaves_ofString text) <| .ite (leaves_ofWord _ _ _) <| .ite (leaves_ofWord _ _ _) <|
    .ite (leaves_ofWord _ _ _) <| .ite ((leaves_ofScan true text).mono (Nat.sub_le _ _)) <|
    .ite (leaves_ofScan false (c :: text)) ?_
  intro rest equal
  cases equal

def ofText : List Char → List Token
  | [] => []
  | c :: rest =>
    if isSpace c then ofText rest
    else match _scanned : scan c rest with
      | (token, some after) =>
        token :: ofText after
      | (token, none) => [token]
termination_by text => text.length
decreasing_by
  · simp
  · exact Nat.lt_succ_of_le (leaves_scan c rest after (by rw [_scanned]))

end Token

end LintAdapter.Json
