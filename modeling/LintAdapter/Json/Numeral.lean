import LintAdapter.Json.Token
import LintAdapter.Json.Value

namespace LintAdapter.Json.Numeral

open LintAdapter.Number (Binary64)

def digitValue (c : Char) : Nat := c.toNat - '0'.toNat

def absorb : (significand : Nat) → List Char → Nat × List Char
  | significand, [] => (significand, [])
  | significand, c :: rest =>
    if significand * 10 + digitValue c < 0x10000000000000000 then
      absorb (significand * 10 + digitValue c) rest
    else (significand, c :: rest)

def writtenExponent (numeral : Numeral) : Int :=
  match numeral.exponent with
  | none => 0
  | some (negative, digits) =>
    let size : Nat := digits.foldl (fun total c => total * 10 + digitValue c) 0
    if negative then -size else size

/-- Whole digits that do not fit the significand only raise the exponent; such digits of the
fraction are without effect. -/
def real? (numeral : Numeral) : Option Binary64 :=
  let (whole, dropped) := absorb 0 numeral.whole
  let (significand, ignored) := absorb whole numeral.fraction
  let taken := numeral.fraction.length - ignored.length
  let magnitude :=
    Binary64.ofDecimal? significand (dropped.length - (taken : Int) + numeral.writtenExponent)
  if numeral.negative then magnitude.map Binary64.neg else magnitude

def isWhole (numeral : Numeral) : Bool := numeral.fraction.isEmpty && numeral.exponent.isNone

/-- The number, none when its magnitude is out of range. A whole numeral that fits in 64 bits is a
whole number, except that negative zero is real. -/
def number? (numeral : Numeral) : Option Number :=
  let (significand, dropped) := absorb 0 numeral.whole
  if !(numeral.isWhole && dropped.isEmpty) then numeral.real?.map .real
  else if !numeral.negative then some (.integer significand)
  else if 0 < significand ∧ significand ≤ 0x8000000000000000 then some (.integer (-significand))
  else numeral.real?.map .real

end LintAdapter.Json.Numeral
