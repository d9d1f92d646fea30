import LintAdapter.Number.Binary64
import LintAdapter.Number.Decimal

namespace LintAdapter.Number

namespace Binary64

def compareDecimal (digits : Nat) (exponent : Int) (numerator denominator : Nat) : Ordering :=
  if 0 ≤ exponent then compare (digits * Nat.pow 10 exponent.toNat * denominator) numerator
  else compare (digits * denominator) (numerator * Nat.pow 10 (-exponent).toNat)

/-- Whether a decimal lies in the interval that rounds to the number. The interval reaches half way
to both neighbours, and holds its ends when the significand is even. Below a power of two the
neighbour is only half as far away. -/
def rounds (x : Binary64) (digits : Nat) (exponent : Int) : Bool :=
  let even := x.significand % 2 == 0
  let closer := x.significand == fractionCount && leastExponent < x.exponent
  let quarters := x.significand * 4
  let lower := if closer then quarters - 1 else quarters - 2
  let upper := quarters + 2
  let scale := x.exponent - 2
  let up := if 0 ≤ scale then Nat.pow 2 scale.toNat else 1
  let down := if 0 ≤ scale then 1 else Nat.pow 2 (-scale).toNat
  let low := compareDecimal digits exponent (lower * up) down
  let high := compareDecimal digits exponent (upper * up) down
  (low == .gt || (even && low == .eq)) && (high == .lt || (even && high == .eq))

def digitCount (n : Nat) : Nat := (Nat.toDigits 10 n).length

def decimalExponent (x : Binary64) : Int :=
  let (numerator, denominator) := x.ratio
  let estimate : Int := (digitCount numerator : Int) - (digitCount denominator : Int)
  if compareDecimal 1 estimate numerator denominator == .gt then estimate - 1 else estimate

def floorUnits (x : Binary64) (exponent : Int) : Nat :=
  let (numerator, denominator) := x.ratio
  if 0 ≤ exponent then numerator / (denominator * Nat.pow 10 exponent.toNat)
  else numerator * Nat.pow 10 (-exponent).toNat / denominator

def upperNearer (x : Binary64) (below : Nat) (exponent : Int) : Bool :=
  let (numerator, denominator) := x.ratio
  match compareDecimal (2 * below + 1) exponent (2 * numerator) denominator with
  | .lt => true
  | .eq => below % 2 == 1
  | .gt => false

def onGrid? (x : Binary64) (exponent : Int) : Option Decimal :=
  let below := x.floorUnits exponent
  let first := if x.upperNearer below exponent then below + 1 else below
  let second := if x.upperNearer below exponent then below else below + 1
  if x.rounds first exponent then some ⟨first, exponent⟩
  else if x.rounds second exponent then some ⟨second, exponent⟩
  else none

/-- The shortest decimal that rounds to a positive finite number. Seventeen digits always do. -/
def shortest (x : Binary64) : Decimal :=
  let top := x.decimalExponent
  let grids := (List.range 17).map fun (count : Nat) => top - (count : Int)
  match grids.findSome? x.onGrid? with
  | some d => d.trim 17
  | none => ⟨x.floorUnits (top - 17), top - 17⟩

def text (layout : Layout) (x : Binary64) : List Char :=
  let magnitude := if x.isZero then ['0', '.', '0'] else x.shortest.text layout
  if x.negative then '-' :: magnitude else magnitude

end Binary64

end LintAdapter.Number
