import LintAdapter.Json.Fault
import LintAdapter.Json.Numeral
import Mathlib.Tactic.Common

namespace LintAdapter.Json

namespace Token

def EndsNumeral (rest : List Char) : Prop :=
  ∀ c ∈ rest.head?, isDigit c = false ∧ c ≠ '.' ∧ c ≠ 'e' ∧ c ≠ 'E'

theorem endsNumeral_nil : EndsNumeral [] := nofun

theorem endsNumeral_cons {c : Char} (ends : isDigit c = false ∧ c ≠ '.' ∧ c ≠ 'e' ∧ c ≠ 'E')
    (rest : List Char) : EndsNumeral (c :: rest) := by
  rintro _ ⟨⟩
  exact ends

theorem isDigit_of_mem_toDigits {n : Nat} {c : Char} (member : c ∈ Nat.toDigits 10 n) :
    isDigit c = true := by
  have digit : c.isDigit = true := Nat.isDigit_of_mem_toDigits (by decide) (by decide) member
  simp only [Char.isDigit, Bool.and_eq_true, decide_eq_true_eq] at digit
  simp only [isDigit, Bool.and_eq_true, decide_eq_true_eq]
  exact digit

theorem isDigit_ne {c other : Char} (digit : isDigit c = true) (different : isDigit other = false) :
    c ≠ other := by
  rintro rfl
  rw [digit] at different
  cases different

theorem scanDigits_append {digits rest : List Char} (nonempty : digits ≠ [])
    (all : ∀ c ∈ digits, isDigit c = true) (ends : ∀ c ∈ rest.head?, isDigit c = false) :
    scanDigits (digits ++ rest) = .ok (digits, rest) := by
  have stop : rest.takeWhile isDigit = [] ∧ rest.dropWhile isDigit = rest := by
    cases rest with
    | nil => exact ⟨rfl, rfl⟩
    | cons c rest => simp [ends c rfl]
  rw [scanDigits, List.takeWhile_append_of_pos all, List.dropWhile_append_of_pos all, stop.1,
    stop.2, List.append_nil]
  split
  · contradiction
  · rfl

theorem head?_toDigits {n : Nat} (positive : 0 < n) : (Nat.toDigits 10 n).head? ≠ some '0' := by
  induction n using Nat.strongRecOn with
  | ind n ih =>
      rw [Nat.toDigits_eq_if (by decide)]
      split_ifs with small
      · simp only [List.head?_cons, ne_eq, Option.some.injEq, Nat.digitChar_eq_zero]
        omega
      · have front := ih (n / 10) (by omega) (by omega)
        rw [List.head?_append]
        cases leading : (Nat.toDigits 10 (n / 10)).head? with
        | none => exact absurd (List.head?_eq_none_iff.1 leading) Nat.toDigits_ne_nil
        | some c => simpa [leading] using front

end Token

namespace Numeral

def fractionText : List Char → List Char
  | [] => []
  | fraction => '.' :: fraction

def exponentText : Option (Bool × List Char) → List Char
  | none => []
  | some (negative, digits) => 'e' :: (if negative then '-' else '+') :: digits

def magnitude (numeral : Numeral) : List Char :=
  numeral.whole ++ fractionText numeral.fraction ++ exponentText numeral.exponent

def text (numeral : Numeral) : List Char :=
  if numeral.negative then '-' :: numeral.magnitude else numeral.magnitude

structure WellFormed (numeral : Numeral) : Prop where
  whole_ne_nil : numeral.whole ≠ []
  whole : ∀ c ∈ numeral.whole, Token.isDigit c = true
  noLeadingZero : ¬ (numeral.whole.head? = some '0' ∧ numeral.whole.length ≠ 1)
  fraction : ∀ c ∈ numeral.fraction, Token.isDigit c = true
  exponent : ∀ negative digits, numeral.exponent = some (negative, digits) →
    digits ≠ [] ∧ ∀ c ∈ digits, Token.isDigit c = true

open Token

theorem scanExponent_exponentText {exponent : Option (Bool × List Char)}
    (wellFormed : ∀ negative digits, exponent = some (negative, digits) →
      digits ≠ [] ∧ ∀ c ∈ digits, isDigit c = true) {rest : List Char} (ends : EndsNumeral rest) :
    scanExponent (exponentText exponent ++ rest) = .ok (exponent, rest) := by
  cases exponent with
  | none =>
      cases rest with
      | nil => rfl
      | cons c rest =>
          obtain ⟨-, -, lower, upper⟩ := ends c rfl
          simp [exponentText, scanExponent, lower, upper]
  | some given =>
      obtain ⟨negative, digits⟩ := given
      obtain ⟨nonempty, all⟩ := wellFormed negative digits rfl
      have scanned := scanDigits_append nonempty all fun c head => (ends c head).1
      cases negative <;>
        simp [exponentText, scanExponent, scanSign, scanned, bind, Except.bind, pure, Except.pure]

theorem head?_exponentText (exponent : Option (Bool × List Char)) {rest : List Char}
    (ends : EndsNumeral rest) :
    ∀ c ∈ (exponentText exponent ++ rest).head?, isDigit c = false ∧ c ≠ '.' := by
  cases exponent with
  | none => exact fun c head => ⟨(ends c head).1, (ends c head).2.1⟩
  | some given =>
      rintro _ ⟨⟩
      decide

theorem scanFraction_fractionText {fraction : List Char} (all : ∀ c ∈ fraction, isDigit c = true)
    {rest : List Char} (ends : ∀ c ∈ rest.head?, isDigit c = false ∧ c ≠ '.') :
    scanFraction (fractionText fraction ++ rest) = .ok (fraction, rest) := by
  cases fraction with
  | nil =>
      change scanFraction rest = _
      unfold scanFraction
      split
      · exact absurd rfl (ends _ rfl).2
      · rfl
  | cons c fraction =>
      exact scanDigits_append (List.cons_ne_nil c fraction) all fun c head => (ends c head).1

theorem head?_fractionText (fraction : List Char) {rest : List Char}
    (ends : ∀ c ∈ rest.head?, isDigit c = false ∧ c ≠ '.') :
    ∀ c ∈ (fractionText fraction ++ rest).head?, isDigit c = false := by
  cases fraction with
  | nil => exact fun c head => (ends c head).1
  | cons c fraction =>
      rintro _ ⟨⟩
      decide

variable {numeral : Numeral} (wellFormed : numeral.WellFormed)

include wellFormed

theorem WellFormed.scanMagnitude_append {rest : List Char} (ends : EndsNumeral rest) :
    scanMagnitude numeral.negative (numeral.magnitude ++ rest) = .ok (numeral, rest) := by
  obtain ⟨negative, whole, fraction, exponent⟩ := numeral
  have exponents := scanExponent_exponentText wellFormed.exponent ends
  have afterFraction := head?_exponentText exponent ends
  have fractions := scanFraction_fractionText wellFormed.fraction afterFraction
  have digits := scanDigits_append wellFormed.whole_ne_nil wellFormed.whole
    (head?_fractionText fraction afterFraction)
  have leading := wellFormed.noLeadingZero
  dsimp only at exponents fractions digits leading
  rw [magnitude, List.append_assoc, List.append_assoc]
  simp only [scanMagnitude, digits, fractions, exponents, leading, bind, Except.bind, pure,
    Except.pure, ↓reduceIte]

end Numeral

namespace Token

theorem ofText_cons {c : Char} {rest after : List Char} {token : Token}
    (solid : isSpace c = false) (scanned : scan c rest = (token, some after)) :
    ofText (c :: rest) = token :: ofText after := by
  rw [ofText, if_neg (by simp [solid])]
  split
  · rename_i found left equal
    rw [scanned] at equal
    cases equal
    rfl
  · rename_i found equal
    rw [scanned] at equal
    cases equal

theorem isSpace_of_isDigit {c : Char} (digit : isDigit c = true) : isSpace c = false := by
  have ne (other : Char) (different : isDigit other = false) : c ≠ other :=
    isDigit_ne digit different
  simp [isSpace, ne ' ' rfl, ne '\t' rfl, ne '\n' rfl, ne '\r' rfl]

theorem scan_of_isDigit {c : Char} (digit : isDigit c = true) (rest : List Char) :
    scan c rest = ofScan .numeral .badNumeral (scanMagnitude false (c :: rest)) := by
  have ne (other : Char) (different : isDigit other = false) : c ≠ other :=
    isDigit_ne digit different
  rw [scan, if_neg (ne '[' rfl), if_neg (ne ']' rfl), if_neg (ne '\x7b' rfl),
    if_neg (ne '\x7d' rfl), if_neg (ne ',' rfl), if_neg (ne ':' rfl), if_neg (ne '"' rfl),
    if_neg (ne 'n' rfl), if_neg (ne 't' rfl), if_neg (ne 'f' rfl), if_neg (ne '-' rfl),
    if_pos digit]

theorem ofText_numeral {numeral : Numeral} (wellFormed : numeral.WellFormed) {rest : List Char}
    (ends : EndsNumeral rest) : ofText (numeral.text ++ rest) = .numeral numeral :: ofText rest := by
  have scanned := wellFormed.scanMagnitude_append ends
  rw [Numeral.text]
  cases sign : numeral.negative with
  | true =>
      rw [sign] at scanned
      rw [if_pos rfl, List.cons_append]
      refine ofText_cons rfl ?_
      change ofScan .numeral .badNumeral (scanMagnitude true _) = _
      rw [scanned, ofScan]
  | false =>
      rw [sign] at scanned
      rw [if_neg Bool.false_ne_true]
      obtain ⟨c, more, whole⟩ := List.exists_cons_of_ne_nil wellFormed.whole_ne_nil
      have digit := wellFormed.whole c (whole ▸ List.mem_cons_self)
      have begun : numeral.magnitude ++ rest = c :: (more ++
          Numeral.fractionText numeral.fraction ++ Numeral.exponentText numeral.exponent ++
            rest) := by
        rw [Numeral.magnitude, whole]
        rfl
      rw [begun] at scanned ⊢
      refine ofText_cons (isSpace_of_isDigit digit) ?_
      rw [scan_of_isDigit digit, scanned, ofScan]

end Token

namespace Numeral

def ofInt (value : Int) : Numeral := ⟨value < 0, Nat.toDigits 10 value.natAbs, [], none⟩

theorem wellFormed_ofInt (value : Int) : (ofInt value).WellFormed where
  whole_ne_nil := Nat.toDigits_ne_nil
  whole _ := Token.isDigit_of_mem_toDigits
  noLeadingZero := by
    change ¬ ((Nat.toDigits 10 value.natAbs).head? = some '0' ∧
      (Nat.toDigits 10 value.natAbs).length ≠ 1)
    rcases Nat.eq_zero_or_pos value.natAbs with zero | positive
    · simp [zero]
    · exact fun leading => Token.head?_toDigits positive leading.1
  fraction _ member := absurd member List.not_mem_nil
  exponent := nofun

theorem le_ofDigitChars (digits : List Char) (start : Nat) :
    start ≤ Nat.ofDigitChars 10 digits start := by
  rw [Nat.ofDigitChars_eq_ofDigitChars_zero]
  have scale : start ≤ 10 ^ digits.length * start :=
    Nat.le_mul_of_pos_left start (Nat.pow_pos (by decide))
  exact Nat.le_add_right_of_le scale

theorem absorb_eq {digits : List Char} {start : Nat}
    (fits : Nat.ofDigitChars 10 digits start < 0x10000000000000000) :
    absorb start digits = (Nat.ofDigitChars 10 digits start, []) := by
  induction digits generalizing start with
  | nil => rfl
  | cons c rest ih =>
      have next : start * 10 + digitValue c = 10 * start + (c.toNat - '0'.toNat) := by
        rw [digitValue, Nat.mul_comm]
      rw [Nat.ofDigitChars_cons] at fits ⊢
      -- What the first digits make is never above the whole number, so no digit is dropped.
      have below := le_ofDigitChars rest (10 * start + (c.toNat - '0'.toNat))
      rw [absorb, next, if_pos (by omega), ih fits]

theorem absorb_toDigits {n : Nat} (fits : n < 0x10000000000000000) :
    absorb 0 (Nat.toDigits 10 n) = (n, []) := by
  rw [← Nat.ofDigitChars_ten_toDigits (n := n)] at fits
  rw [absorb_eq fits, Nat.ofDigitChars_ten_toDigits]

theorem number?_ofInt {value : Int} (least : -0x8000000000000000 ≤ value)
    (greatest : value < 0x10000000000000000) : (ofInt value).number? = some (.integer value) := by
  have absorbed : absorb 0 (Nat.toDigits 10 value.natAbs) = (value.natAbs, []) :=
    absorb_toDigits (by omega)
  have whole : (ofInt value).isWhole = true := rfl
  have digits : (ofInt value).whole = Nat.toDigits 10 value.natAbs := rfl
  have sign : (ofInt value).negative = decide (value < 0) := rfl
  simp only [number?, digits, absorbed, whole, sign, List.isEmpty_nil, Bool.and_self]
  by_cases negative : value < 0
  · have magnitude : 0 < value.natAbs ∧ value.natAbs ≤ 0x8000000000000000 := by omega
    have same : -(value.natAbs : Int) = value := by omega
    simp only [negative, magnitude, same, decide_true, Bool.not_true, Bool.false_eq_true,
      ↓reduceIte, and_self]
  · have same : (value.natAbs : Int) = value := by omega
    simp only [negative, same, decide_false, Bool.not_true, Bool.not_false, Bool.false_eq_true,
      ↓reduceIte]

end Numeral

theorem Numeral.text_ofInt (value : Int) : (ofInt value).text =
    if value < 0 then '-' :: Nat.toDigits 10 value.natAbs
    else Nat.toDigits 10 value.natAbs := by
  simp [text, magnitude, ofInt, fractionText, exponentText]

theorem Number.text_integer (value : Int) :
    (Number.integer value).text = (Numeral.ofInt value).text := by
  rw [Numeral.text_ofInt]
  cases value with
  | ofNat n =>
      change (Nat.repr n).toList = _
      simp [Nat.repr_eq_ofList_toDigits]
  | negSucc n =>
      change ("-" ++ Nat.repr (n + 1)).toList = _
      simp [Nat.repr_eq_ofList_toDigits]

end LintAdapter.Json
