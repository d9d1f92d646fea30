import LintAdapter.Proofs.Json.Numeral
import LintAdapter.Proofs.Number.Shortest

namespace LintAdapter.Json

open LintAdapter.Number (Binary64 Decimal Layout)

namespace Numeral

def IsMagnitude (text : List Char) : Prop :=
  ∃ numeral : Numeral, numeral.WellFormed ∧ text = numeral.magnitude

theorem isDigit_of_mem_zero : ∀ c ∈ ['0'], Token.isDigit c = true :=
  List.forall_mem_singleton.2 rfl

theorem isMagnitude_fraction {whole fraction : List Char} (nonempty : whole ≠ [])
    (digits : ∀ c ∈ whole, Token.isDigit c = true)
    (noLeadingZero : ¬ (whole.head? = some '0' ∧ whole.length ≠ 1)) (someFraction : fraction ≠ [])
    (fractionDigits : ∀ c ∈ fraction, Token.isDigit c = true) :
    IsMagnitude (whole ++ '.' :: fraction) := by
  refine ⟨⟨false, whole, fraction, none⟩, ⟨nonempty, digits, noLeadingZero, fractionDigits, nofun⟩,
    ?_⟩
  obtain ⟨c, rest, rfl⟩ := List.exists_cons_of_ne_nil someFraction
  exact (List.append_nil _).symm

theorem isMagnitude_belowOne {fraction : List Char} (someFraction : fraction ≠ [])
    (fractionDigits : ∀ c ∈ fraction, Token.isDigit c = true) :
    IsMagnitude ('0' :: '.' :: fraction) :=
  isMagnitude_fraction (List.cons_ne_nil '0' []) isDigit_of_mem_zero (fun leading => leading.2 rfl)
    someFraction fractionDigits

theorem isDigit_of_mem_replicate {n : Nat} {c : Char} (member : c ∈ List.replicate n '0') :
    Token.isDigit c = true := by
  rw [List.eq_of_mem_replicate member]
  decide

end Numeral

open Numeral

variable {d : Decimal} (positive : 0 < d.digits)

include positive

theorem isMagnitude_positional : IsMagnitude d.positional := by
  have digit {c : Char} (member : c ∈ Nat.toDigits 10 d.digits) : Token.isDigit c = true :=
    Token.isDigit_of_mem_toDigits member
  have leading := Token.head?_toDigits positive
  have nonempty : Nat.toDigits 10 d.digits ≠ [] := Nat.toDigits_ne_nil
  unfold Decimal.positional
  dsimp only
  split_ifs with whole mixed
  · have zeros {n : Nat} : Nat.toDigits 10 d.digits ++ List.replicate n '0' ≠ [] := by
      simp [nonempty]
    refine isMagnitude_fraction zeros ?_ ?_ (List.cons_ne_nil '0' []) isDigit_of_mem_zero
    · intro c member
      exact (List.mem_append.1 member).elim digit isDigit_of_mem_replicate
    · rw [List.head?_append]
      obtain ⟨first, others, digits⟩ := List.exists_cons_of_ne_nil nonempty
      rw [digits] at leading ⊢
      exact fun zero => leading zero.1
  · -- The point stands among the digits.
    have count : (d.leadingExponent + 1).toNat < (Nat.toDigits 10 d.digits).length := by
      rw [Decimal.leadingExponent] at mixed ⊢
      omega
    have some : (d.leadingExponent + 1).toNat ≠ 0 := by omega
    refine isMagnitude_fraction (by simp [nonempty, some])
      (fun c member => digit (List.mem_of_mem_take member)) ?_ (by simpa using count)
      (fun c member => digit (List.mem_of_mem_drop member))
    rw [List.head?_take, if_neg some]
    exact fun zero => leading zero.1
  · refine isMagnitude_belowOne (by simp [nonempty]) ?_
    intro c member
    exact (List.mem_append.1 member).elim isDigit_of_mem_replicate digit

theorem isMagnitude_scientific : IsMagnitude d.scientific := by
  have digit {n : Nat} {c : Char} (member : c ∈ Nat.toDigits 10 n) : Token.isDigit c = true :=
    Token.isDigit_of_mem_toDigits member
  have leading := Token.head?_toDigits positive
  -- One digit stands before the point, and there is no point when there are no others.
  obtain ⟨first, others, digits⟩ := List.exists_cons_of_ne_nil
    (Nat.toDigits_ne_nil : Nat.toDigits 10 d.digits ≠ [])
  have mantissa : d.scientific = [first] ++ fractionText others ++
      exponentText (some (decide (d.leadingExponent < 0),
        Nat.toDigits 10 d.leadingExponent.natAbs)) := by
    unfold Decimal.scientific
    rw [digits]
    cases others <;> simp [fractionText, exponentText]
  have firstDigit : Token.isDigit first = true := digit (digits ▸ List.mem_cons_self)
  refine ⟨⟨false, [first], others, _⟩, ⟨by simp, by simpa using firstDigit, by simp, ?_, ?_⟩,
    mantissa⟩
  · exact fun c member => digit (digits ▸ List.mem_cons_of_mem first member)
  · rintro _ _ ⟨⟩
    exact ⟨Nat.toDigits_ne_nil, fun c => digit⟩

theorem isMagnitude_text (layout : Layout) : IsMagnitude (d.text layout) := by
  rw [Decimal.text]
  split_ifs
  · exact isMagnitude_positional positive
  · exact isMagnitude_scientific positive

omit positive

theorem Number.exists_numeral (n : Number) :
    ∃ numeral : Numeral, numeral.WellFormed ∧ n.text = numeral.text := by
  cases n with
  | integer value =>
      exact ⟨.ofInt value, wellFormed_ofInt value, text_integer value⟩
  | real x =>
      have magnitude : IsMagnitude (if x.isZero then ['0', '.', '0']
          else x.shortest.text numberLayout) := by
        split_ifs with zero
        · exact isMagnitude_belowOne (List.cons_ne_nil '0' []) isDigit_of_mem_zero
        · exact isMagnitude_text (Binary64.digits_shortest_pos zero) numberLayout
      obtain ⟨numeral, wellFormed, written⟩ := magnitude
      refine ⟨{ numeral with negative := x.negative }, ⟨wellFormed.1, wellFormed.2, wellFormed.3,
        wellFormed.4, wellFormed.5⟩, ?_⟩
      change x.text numberLayout = _
      rw [Binary64.text, written]
      rfl

end LintAdapter.Json
