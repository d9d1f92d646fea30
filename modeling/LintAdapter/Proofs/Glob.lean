import LintAdapter.Glob
import Mathlib.Tactic.Common

namespace LintAdapter.Glob

def IsPlain (c : Char) : Prop := c ≠ '*' ∧ c ≠ '?' ∧ c ≠ '['

theorem readFrom_plain {c : Char} (plain : IsPlain c) (tokens : List Token) (position : Nat)
    (previous : Option Char) (rest : List Char) :
    readFrom tokens position previous 0 (c :: rest) =
      readFrom (tokens ++ [.char c]) (position + 1) (some c) 0 rest := by
  obtain ⟨noStar, noMark, noBracket⟩ := plain
  rw [readFrom, if_neg noMark]
  · exact noStar
  · exact noBracket

theorem readFrom_plain_star {beginning : List Char} (plain : ∀ c ∈ beginning, IsPlain c)
    (tokens : List Token) (position : Nat) (previous : Option Char) :
    readFrom tokens position previous 0 (beginning ++ ['*']) =
      .ok (tokens ++ beginning.map .char ++ [.anySequence]) := by
  induction beginning generalizing tokens position previous with
  | nil => rw [List.map_nil, List.append_nil]; rfl
  | cons c rest ih =>
      rw [List.forall_mem_cons] at plain
      rw [List.cons_append, readFrom_plain plain.1, ih plain.2, List.append_assoc tokens]
      rfl

theorem anyRest_of_nil {holds : List Char → Bool} (atEnd : holds []) (c : Char)
    (text : List Char) : anyRest (fun _ => true) holds (c :: text) := by
  induction text generalizing c with
  | nil => simp [anyRest, atEnd]
  | cons next rest ih => rw [anyRest, ih next, Bool.or_true]

theorem matchesFrom_anySequence (text : List Char) : matchesFrom [.anySequence] text := by
  rw [matchesFrom]
  cases text with
  | nil => rfl
  | cons c rest => rw [anyRest_of_nil rfl, Bool.or_true]

theorem matchesFrom_chars (beginning text : List Char) :
    matchesFrom (beginning.map .char ++ [.anySequence]) text ↔ beginning <+: text := by
  induction beginning generalizing text with
  | nil => exact iff_of_true (matchesFrom_anySequence text) List.nil_prefix
  | cons c rest ih =>
      cases text with
      | nil => simp [matchesFrom]
      | cons other text =>
          rw [List.cons_prefix_cons, ← ih]
          simp [matchesFrom, Token.admits]

theorem isMatch_star_iff {beginning : String} (plain : ∀ c ∈ beginning.toList, IsPlain c)
    (text : String) : isMatch (beginning ++ "*") text ↔ ∃ rest, text = beginning ++ rest := by
  have tokens : read (beginning ++ "*") =
      .ok ([] ++ beginning.toList.map .char ++ [.anySequence]) := by
    rw [read, String.toList_append]
    exact readFrom_plain_star plain [] 0 none
  rw [isMatch, tokens]
  dsimp only
  rw [List.nil_append, matchesFrom_chars]
  constructor
  · rintro ⟨rest, same⟩
    refine ⟨String.ofList rest, ?_⟩
    rw [← String.toList_inj, String.toList_append, String.toList_ofList, same]
  · rintro ⟨rest, rfl⟩
    rw [String.toList_append]
    exact List.prefix_append _ _

end LintAdapter.Glob
