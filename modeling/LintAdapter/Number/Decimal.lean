namespace LintAdapter.Number

structure Decimal where
  digits : Nat
  exponent : Int
  deriving DecidableEq

structure Layout where
  leastPositional : Int
  greatestPositional : Int

namespace Decimal

def trim : (steps : Nat) → Decimal → Decimal
  | 0, d => d
  | steps + 1, d => if d.digits % 10 = 0 then trim steps ⟨d.digits / 10, d.exponent + 1⟩ else d

def leadingExponent (d : Decimal) : Int :=
  d.exponent + ((Nat.toDigits 10 d.digits).length : Int) - 1

def positional (d : Decimal) : List Char :=
  let digits := Nat.toDigits 10 d.digits
  if 0 ≤ d.exponent then digits ++ List.replicate d.exponent.toNat '0' ++ ['.', '0']
  else if 0 ≤ d.leadingExponent then
    let whole := (d.leadingExponent + 1).toNat
    digits.take whole ++ '.' :: digits.drop whole
  else '0' :: '.' :: List.replicate (-d.leadingExponent - 1).toNat '0' ++ digits

def scientific (d : Decimal) : List Char :=
  let mantissa := match Nat.toDigits 10 d.digits with
    | first :: second :: rest => first :: '.' :: second :: rest
    | digits => digits
  let sign := if d.leadingExponent < 0 then '-' else '+'
  mantissa ++ 'e' :: sign :: Nat.toDigits 10 d.leadingExponent.natAbs

def text (layout : Layout) (d : Decimal) : List Char :=
  if layout.leastPositional ≤ d.leadingExponent ∧ d.leadingExponent ≤ layout.greatestPositional then
    d.positional
  else d.scientific

end Decimal

end LintAdapter.Number
