import LintAdapter.Toml.Value

namespace LintAdapter.Toml.Scalar

def isDigit (c : Char) : Bool := '0' ≤ c && c ≤ '9'

def digitValue (c : Char) : Nat :=
  if isDigit c then c.toNat - '0'.toNat
  else if 'a' ≤ c ∧ c ≤ 'f' then c.toNat - 'a'.toNat + 10
  else c.toNat - 'A'.toNat + 10

def isHexDigit (c : Char) : Bool := isDigit c || ('a' ≤ c && c ≤ 'f') || ('A' ≤ c && c ≤ 'F')

def numberOf (base : Nat) (digits : List Char) : Nat :=
  digits.foldl (fun total c => total * base + digitValue c) 0

def grouped (isDigit : Char → Bool) : List Char → Option (List Char)
  | [] => none
  | [c] => if isDigit c then some [c] else none
  | c :: '_' :: rest => if isDigit c then (c :: ·) <$> grouped isDigit rest else none
  | c :: rest => if isDigit c then (c :: ·) <$> grouped isDigit rest else none

def signed : List Char → Bool × List Char
  | '-' :: rest => (true, rest)
  | '+' :: rest => (false, rest)
  | word => (false, word)

def decimal? (word : List Char) : Option (List Char) :=
  match grouped isDigit word with
  | some ('0' :: _ :: _) => none
  | digits => digits

def integer? (word : List Char) : Option Int :=
  let number : Option Int := match word with
    | '0' :: 'x' :: rest => (grouped isHexDigit rest).map fun digits => (numberOf 16 digits : Int)
    | '0' :: 'o' :: rest =>
      (grouped (fun c => '0' ≤ c && c ≤ '7') rest).map fun digits => (numberOf 8 digits : Int)
    | '0' :: 'b' :: rest =>
      (grouped (fun c => c == '0' || c == '1') rest).map fun digits => (numberOf 2 digits : Int)
    | _ => (decimal? (signed word).2).map fun digits =>
      if (signed word).1 then -(numberOf 10 digits : Int) else numberOf 10 digits
  number.filter fun n => -0x8000000000000000 ≤ n && n < 0x8000000000000000

/-- Whether `digits * 10 ^ exponent` is too large for a double: not below the middle between the
largest finite number and the next power of two. -/
def overflows (digits : List Char) (exponent : Int) : Bool :=
  let significant := digits.dropWhile (· == '0')
  let magnitude := (significant.length : Int) + exponent
  if significant.isEmpty || magnitude < 300 then false
  else if 310 < magnitude then true
  else
    let bound := Nat.pow 2 1024 - Nat.pow 2 970
    let number := numberOf 10 significant
    if 0 ≤ exponent then bound ≤ number * Nat.pow 10 exponent.toNat
    else bound * Nat.pow 10 (-exponent).toNat ≤ number

def isExponentMark (c : Char) : Bool := c == 'e' || c == 'E'

def fraction? : List Char → Option (List Char)
  | [] => some []
  | '.' :: rest => grouped isDigit rest
  | _ :: _ => none

def exponent? : List Char → Option Int
  | [] => some 0
  | _ :: rest => (grouped isDigit (signed rest).2).map fun digits =>
    if (signed rest).1 then -(numberOf 10 digits : Int) else numberOf 10 digits

def isFloat (word : List Char) : Bool :=
  let (negative, magnitude) := signed word
  if magnitude = ['i', 'n', 'f'] ∨ magnitude = ['n', 'a', 'n'] then true
  else
    let mantissa := magnitude.takeWhile (!isExponentMark ·)
    let marked := magnitude.dropWhile (!isExponentMark ·)
    let whole := mantissa.takeWhile (· != '.')
    let pointed := mantissa.dropWhile (· != '.')
    match decimal? whole, fraction? pointed, exponent? marked with
    | some digits, some fraction, some exponent =>
      !(pointed.isEmpty && marked.isEmpty) &&
        (negative || !overflows (digits ++ fraction) (exponent - fraction.length))
    | _, _, _ => false

def twoDigits? (least greatest : Nat) (a b : Char) : Option Nat :=
  if isDigit a && isDigit b then
    some (numberOf 10 [a, b]) |>.filter fun n => least ≤ n && n ≤ greatest
  else none

def daysInMonth (year month : Nat) : Nat :=
  if month = 2 then
    if year % 4 = 0 ∧ (year % 100 ≠ 0 ∨ year % 400 = 0) then 29 else 28
  else if month = 4 ∨ month = 6 ∨ month = 9 ∨ month = 11 then 30
  else 31

def afterDate? : List Char → Option (List Char)
  | y1 :: y2 :: y3 :: y4 :: '-' :: m1 :: m2 :: '-' :: d1 :: d2 :: rest => do
    if [y1, y2, y3, y4].any (!isDigit ·) then none
    let month ← twoDigits? 1 12 m1 m2
    let day ← twoDigits? 1 31 d1 d2
    if daysInMonth (numberOf 10 [y1, y2, y3, y4]) month < day then none
    return rest
  | _ => none

def afterSecondFraction? : List Char → Option (List Char)
  | '.' :: rest =>
    match rest.takeWhile isDigit with
    | [] => none
    | _ => some (rest.dropWhile isDigit)
  | word => some word

def afterTime? : List Char → Option (List Char)
  | h1 :: h2 :: ':' :: m1 :: m2 :: ':' :: s1 :: s2 :: rest => do
    let _ ← twoDigits? 0 23 h1 h2
    let _ ← twoDigits? 0 59 m1 m2
    let _ ← twoDigits? 0 60 s1 s2
    afterSecondFraction? rest
  | _ => none

def isOffset : List Char → Bool
  | [] => true
  | ['Z'] => true
  | ['z'] => true
  | [sign, h1, h2, ':', m1, m2] =>
    (sign == '+' || sign == '-') && (twoDigits? 0 23 h1 h2).isSome && (twoDigits? 0 59 m1 m2).isSome
  | _ => false

def isDate (word : List Char) : Bool := afterDate? word == some []

def isOffsetTime (word : List Char) : Bool := ((afterTime? word).map isOffset).getD false

def isDateTime (word : List Char) : Bool :=
  match afterDate? word with
  | some [] => true
  | some (delimiter :: rest) =>
    (delimiter == 'T' || delimiter == 't' || delimiter == ' ') && isOffsetTime rest
  | none => afterTime? word == some []

def ofWord? (word : List Char) : Option Value :=
  if word = ['t', 'r', 'u', 'e'] then some (.bool true)
  else if word = ['f', 'a', 'l', 's', 'e'] then some (.bool false)
  else if isDateTime word then some (.dateTime (String.ofList word))
  else if isFloat word then some (.float (String.ofList word))
  else (integer? word).map .integer

def isWordChar (c : Char) : Bool :=
  c.isAlphanum || c == '+' || c == '-' || c == '_' || c == '.' || c == ':'

def scan? (text : List Char) : Option (Value × List Char) :=
  let word := text.takeWhile isWordChar
  let rest := text.dropWhile isWordChar
  let dated := match rest with
    | ' ' :: after =>
      if isDate word && isOffsetTime (after.takeWhile isWordChar) then
        some (word ++ ' ' :: after.takeWhile isWordChar, after.dropWhile isWordChar)
      else none
    | _ => none
  let (word, rest) := dated.getD (word, rest)
  (ofWord? word).map (·, rest)

end LintAdapter.Toml.Scalar
