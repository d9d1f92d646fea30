namespace LintAdapter.Number

structure Binary64 where
  bits : UInt64
  deriving DecidableEq, Inhabited

namespace Binary64

def leastExponent : Int := -1074

def infinityBits : Nat := 0x7ff0000000000000

def signUnit : Nat := 0x8000000000000000

def fractionCount : Nat := 0x10000000000000

def negative (x : Binary64) : Bool := x.bits.toNat / signUnit == 1

def magnitudeBits (x : Binary64) : Nat := x.bits.toNat % signUnit

def isZero (x : Binary64) : Bool := x.magnitudeBits == 0

def isFinite (x : Binary64) : Bool := x.magnitudeBits < infinityBits

def significand (x : Binary64) : Nat :=
  if x.magnitudeBits < fractionCount then x.magnitudeBits
  else fractionCount + x.magnitudeBits % fractionCount

def exponent (x : Binary64) : Int :=
  if x.magnitudeBits < fractionCount then leastExponent
  else leastExponent + (x.magnitudeBits / fractionCount : Nat) - 1

def ofMagnitudeBits (bits : Nat) : Binary64 := ⟨bits.toUInt64⟩

def neg (x : Binary64) : Binary64 := ⟨x.bits ^^^ 0x8000000000000000⟩

def roundedQuotient (numerator denominator : Nat) : Nat :=
  let quotient := numerator / denominator
  let twiceRest := 2 * (numerator % denominator)
  if twiceRest > denominator ∨ (twiceRest = denominator ∧ quotient % 2 = 1) then quotient + 1
  else quotient

def binaryLength (numerator denominator : Nat) : Int :=
  let estimate : Int := (numerator.log2 : Int) - (denominator.log2 : Int)
  let below :=
    if 0 ≤ estimate then numerator < denominator * Nat.pow 2 estimate.toNat
    else numerator * Nat.pow 2 (-estimate).toNat < denominator
  if below then estimate else estimate + 1

def ofRatio (numerator denominator : Nat) : Binary64 :=
  if numerator = 0 then ofMagnitudeBits 0
  else
    let exponent := max (binaryLength numerator denominator - 53) leastExponent
    let significand :=
      if 0 ≤ exponent then roundedQuotient numerator (denominator * Nat.pow 2 exponent.toNat)
      else roundedQuotient (numerator * Nat.pow 2 (-exponent).toNat) denominator
    ofMagnitudeBits
      (min ((exponent - leastExponent).toNat * fractionCount + significand) infinityBits)

def ratio (x : Binary64) : Nat × Nat :=
  if 0 ≤ x.exponent then (x.significand * Nat.pow 2 x.exponent.toNat, 1)
  else (x.significand, Nat.pow 2 (-x.exponent).toNat)

def mul (x y : Binary64) : Binary64 :=
  ofRatio (x.ratio.1 * y.ratio.1) (x.ratio.2 * y.ratio.2)

def div (x y : Binary64) : Binary64 :=
  ofRatio (x.ratio.1 * y.ratio.2) (x.ratio.2 * y.ratio.1)

def powerOfTen (n : Nat) : Binary64 := ofRatio (Nat.pow 10 n) 1

def largestPower : Nat := 308

def dividePower (x : Binary64) (n : Nat) : Binary64 :=
  if n ≤ largestPower then x.div (powerOfTen n)
  else if x.isZero then x
  else dividePower (x.div (powerOfTen largestPower)) (n - largestPower)
termination_by n
decreasing_by simp only [largestPower] at *; omega

/-- The number read for `significand * 10 ^ exponent`: the significand is rounded first and then
multiplied or divided by the rounded power of ten, so the result may differ from the nearest number
in its last bit. There is none when it would not be finite. -/
def ofDecimal? (significand : Nat) (exponent : Int) : Option Binary64 :=
  let whole := ofRatio significand 1
  if exponent < 0 then some (whole.dividePower (-exponent).toNat)
  else if exponent ≤ largestPower then
    let product := whole.mul (powerOfTen exponent.toNat)
    if product.isFinite then some product else none
  else if whole.isZero then some whole
  else none

end Binary64

end LintAdapter.Number
