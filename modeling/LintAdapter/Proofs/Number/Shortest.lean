import LintAdapter.Number.Shortest
import Mathlib.Algebra.Group.Nat.Defs
import Mathlib.Tactic.Common
import Mathlib.Tactic.SplitIfs

namespace LintAdapter.Number

theorem Decimal.digits_trim_pos {steps : Nat} {d : Decimal} (positive : 0 < d.digits) :
    0 < (d.trim steps).digits := by
  induction steps generalizing d with
  | zero => exact positive
  | succ steps ih =>
      rw [trim]
      split_ifs with trailing
      · exact ih (Nat.div_pos (by omega) (by decide))
      · exact positive

namespace Binary64

variable {x : Binary64}

theorem significand_pos (notZero : ¬ x.isZero) : 0 < x.significand := by
  rw [isZero, beq_iff_eq] at notZero
  rw [significand]
  split_ifs
  · exact Nat.pos_of_ne_zero notZero
  · exact Nat.add_pos_left (by decide) _

theorem ratio_pos (notZero : ¬ x.isZero) : 0 < x.ratio.1 := by
  have positive := significand_pos notZero
  rw [ratio]
  split_ifs
  · exact Nat.mul_pos positive (Nat.pow_pos (by decide))
  · exact positive

theorem ratio_denominator_pos (x : Binary64) : 0 < x.ratio.2 := by
  rw [ratio]
  split_ifs
  · exact Nat.one_pos
  · exact Nat.pow_pos (by decide)

theorem compareDecimal_zero (exponent : Int) {numerator : Nat} (positive : 0 < numerator)
    (denominator : Nat) : compareDecimal 0 exponent numerator denominator = .lt := by
  rw [compareDecimal]
  split_ifs
  · rw [Nat.zero_mul, Nat.zero_mul]
    exact Nat.compare_eq_lt.2 positive
  · rw [Nat.zero_mul]
    exact Nat.compare_eq_lt.2 (Nat.mul_pos positive (Nat.pow_pos (by decide)))

theorem rounds_zero (notZero : ¬ x.isZero) (exponent : Int) : x.rounds 0 exponent = false := by
  have positive := significand_pos notZero
  have quarters : 0 < x.significand * 4 - 1 ∧ 0 < x.significand * 4 - 2 := by omega
  have scaled {lower : Nat} (some : 0 < lower) (up down : Nat) (scale : 0 < up) :
      compareDecimal 0 exponent (lower * up) down = .lt :=
    compareDecimal_zero exponent (Nat.mul_pos some scale) down
  unfold rounds
  dsimp only
  have up : 0 < if 0 ≤ x.exponent - 2 then Nat.pow 2 (x.exponent - 2).toNat else 1 := by
    split_ifs
    · exact Nat.pow_pos (by decide)
    · exact Nat.one_pos
  have low (closer : Bool) :
      0 < if closer then x.significand * 4 - 1 else x.significand * 4 - 2 := by
    cases closer
    · exact quarters.2
    · exact quarters.1
  rw [scaled (low _) _ _ up]
  simp

theorem digits_pos_of_onGrid? (notZero : ¬ x.isZero) {exponent : Int} {d : Decimal}
    (found : x.onGrid? exponent = some d) : 0 < d.digits := by
  have nothing := rounds_zero notZero exponent
  have held (digits : Nat) (rounded : x.rounds digits exponent = true) : 0 < digits := by
    refine Nat.pos_of_ne_zero ?_
    rintro rfl
    rw [nothing] at rounded
    cases rounded
  unfold onGrid? at found
  dsimp only at found
  split_ifs at found with _ first second <;> cases found <;> first | exact held _ ‹_›

theorem lt_pow_digitCount (n : Nat) : n < 10 ^ digitCount n :=
  (Nat.length_toDigits_le_iff (by decide) Nat.length_toDigits_pos).1 (Nat.le_refl _)

theorem pow_digitCount_le {n : Nat} (positive : 0 < n) : 10 ^ (digitCount n - 1) ≤ n := by
  by_contra below
  rcases Nat.eq_zero_or_pos (digitCount n - 1) with none | some
  · rw [none, Nat.pow_zero] at below
    omega
  · have fewer := (Nat.length_toDigits_le_iff (by decide) some).2 (Nat.lt_of_not_le below)
    change digitCount n ≤ digitCount n - 1 at fewer
    omega

theorem floorUnits_pos (notZero : ¬ x.isZero) {exponent : Int}
    (below : exponent < digitCount x.ratio.1 - digitCount x.ratio.2) :
    0 < x.floorUnits exponent := by
  have low := pow_digitCount_le (ratio_pos notZero)
  have high := lt_pow_digitCount x.ratio.2
  have whole : 0 < digitCount x.ratio.1 := Nat.length_toDigits_pos
  unfold floorUnits
  dsimp only
  split_ifs with raised
  · refine Nat.div_pos ?_ (Nat.mul_pos x.ratio_denominator_pos (Nat.pow_pos (by decide)))
    calc x.ratio.2 * 10 ^ exponent.toNat
        ≤ 10 ^ digitCount x.ratio.2 * 10 ^ exponent.toNat := Nat.mul_le_mul_right _ (Nat.le_of_lt high)
      _ = 10 ^ (digitCount x.ratio.2 + exponent.toNat) := (Nat.pow_add _ _ _).symm
      _ ≤ 10 ^ (digitCount x.ratio.1 - 1) := Nat.pow_le_pow_right (by decide) (by omega)
      _ ≤ x.ratio.1 := low
  · refine Nat.div_pos ?_ x.ratio_denominator_pos
    calc x.ratio.2
        ≤ 10 ^ digitCount x.ratio.2 := Nat.le_of_lt high
      _ ≤ 10 ^ (digitCount x.ratio.1 - 1 + (-exponent).toNat) :=
          Nat.pow_le_pow_right (by decide) (by omega)
      _ = 10 ^ (digitCount x.ratio.1 - 1) * 10 ^ (-exponent).toNat := Nat.pow_add _ _ _
      _ ≤ x.ratio.1 * 10 ^ (-exponent).toNat := Nat.mul_le_mul_right _ low

theorem decimalExponent_le (x : Binary64) :
    x.decimalExponent ≤ digitCount x.ratio.1 - digitCount x.ratio.2 := by
  unfold decimalExponent
  dsimp only
  split_ifs <;> omega

theorem digits_shortest_pos (notZero : ¬ x.isZero) : 0 < x.shortest.digits := by
  unfold shortest
  dsimp only
  split
  · rename_i d found
    obtain ⟨exponent, -, onGrid⟩ := List.exists_of_findSome?_eq_some found
    exact Decimal.digits_trim_pos (digits_pos_of_onGrid? notZero onGrid)
  · have top := x.decimalExponent_le
    exact floorUnits_pos notZero (by omega)

end Binary64

end LintAdapter.Number
