import LintAdapter.Proofs.Text.Utf8
import LintAdapter.Rule.Exclusion
import Mathlib.Data.List.Infix
import Mathlib.Data.String.Basic

namespace LintAdapter.Rule

def Holds (text needle : String) : Prop := ∃ before after, text = before ++ needle ++ after

/-- A text with two others in it, without a line feed between them. -/
def HoldsOnLine (text first last : String) : Prop :=
  ∃ before gap after, '\n' ∉ gap.toList ∧ text = before ++ first ++ gap ++ last ++ after

theorem Holds.append {text needle : String} (holds : Holds text needle) (before after : String) :
    Holds (before ++ text ++ after) needle := by
  obtain ⟨left, right, rfl⟩ := holds
  exact ⟨before ++ left, right ++ after, by simp only [String.append_assoc]⟩

theorem HoldsOnLine.append {text first last : String} (holds : HoldsOnLine text first last)
    (before after : String) : HoldsOnLine (before ++ text ++ after) first last := by
  obtain ⟨left, gap, right, inLine, rfl⟩ := holds
  exact ⟨before ++ left, gap, right ++ after, inLine, by simp only [String.append_assoc]⟩

theorem occurs_iff (needle text : List Char) : occurs needle text ↔ needle <:+: text := by
  induction text with
  | nil => simp [occurs]
  | cons c rest ih => simp [occurs, ih, List.infix_cons_iff]

theorem occursInLine_iff (needle text : List Char) :
    occursInLine needle text ↔ ∃ gap after, '\n' ∉ gap ∧ text = gap ++ needle ++ after := by
  induction text with
  | nil =>
      simp only [occursInLine, List.isEmpty_iff, List.nil_eq, List.append_eq_nil_iff]
      constructor
      · rintro rfl
        exact ⟨[], [], List.not_mem_nil, ⟨rfl, rfl⟩, rfl⟩
      · rintro ⟨gap, after, -, ⟨-, empty⟩, -⟩
        exact empty
  | cons c rest ih =>
      rw [occursInLine, Bool.or_eq_true, Bool.and_eq_true, List.isPrefixOf_iff_prefix, ih, bne_iff_ne]
      constructor
      · rintro (⟨after, equal⟩ | ⟨other, gap, after, inLine, rfl⟩)
        · exact ⟨[], after, List.not_mem_nil, equal.symm⟩
        · refine ⟨c :: gap, after, ?_, rfl⟩
          rw [List.mem_cons, not_or]
          exact ⟨other.symm, inLine⟩
      · rintro ⟨gap, after, inLine, equal⟩
        cases gap with
        | nil => exact .inl ⟨after, equal.symm⟩
        | cons d gap =>
            rw [List.mem_cons, not_or] at inLine
            obtain ⟨rfl, rfl⟩ := List.cons.inj equal
            exact .inr ⟨Ne.symm inLine.1, gap, after, inLine.2, rfl⟩

theorem startsTogether_iff (first last text : List Char) :
    first.isPrefixOf text && occursInLine last (text.drop first.length) ↔
      ∃ gap after, '\n' ∉ gap ∧ text = first ++ (gap ++ last ++ after) := by
  rw [Bool.and_eq_true, List.isPrefixOf_iff_prefix, occursInLine_iff]
  constructor
  · rintro ⟨⟨rest, rfl⟩, gap, after, inLine, equal⟩
    rw [List.drop_left] at equal
    exact ⟨gap, after, inLine, by rw [equal]⟩
  · rintro ⟨gap, after, inLine, rfl⟩
    exact ⟨List.prefix_append _ _, gap, after, inLine, List.drop_left⟩

theorem occursTogether_iff (first last text : List Char) :
    occursTogether first last text ↔ ∃ before gap after, '\n' ∉ gap ∧
      text = before ++ (first ++ (gap ++ last ++ after)) := by
  induction text with
  | nil =>
      simp only [occursTogether, Bool.and_eq_true, List.isEmpty_iff, List.nil_eq,
        List.append_eq_nil_iff]
      constructor
      · rintro ⟨rfl, rfl⟩
        exact ⟨[], [], [], List.not_mem_nil, rfl, rfl, ⟨rfl, rfl⟩, rfl⟩
      · rintro ⟨before, gap, after, -, -, noFirst, ⟨-, noLast⟩, -⟩
        exact ⟨noFirst, noLast⟩
  | cons c rest ih =>
      rw [occursTogether, Bool.or_eq_true, startsTogether_iff, ih]
      constructor
      · rintro (⟨gap, after, inLine, equal⟩ | ⟨before, gap, after, inLine, rfl⟩)
        · exact ⟨[], gap, after, inLine, equal⟩
        · exact ⟨c :: before, gap, after, inLine, rfl⟩
      · rintro ⟨before, gap, after, inLine, equal⟩
        cases before with
        | nil => exact .inl ⟨gap, after, inLine, equal⟩
        | cons d before => exact .inr ⟨before, gap, after, inLine, (List.cons.inj equal).2⟩

namespace Exclusion

theorem excludes_text_iff (needle id : String) :
    (text needle).excludes id ↔ Holds id needle := by
  rw [excludes, occurs_iff]
  constructor
  · rintro ⟨before, after, equal⟩
    refine ⟨String.ofList before, String.ofList after, String.toList_inj.1 ?_⟩
    simpa using equal.symm
  · rintro ⟨before, after, rfl⟩
    exact ⟨before.toList, after.toList, by simp⟩

theorem excludes_sameLine_iff (first last id : String) :
    (sameLine first last).excludes id ↔ HoldsOnLine id first last := by
  rw [excludes, occursTogether_iff]
  constructor
  · rintro ⟨before, gap, after, inLine, equal⟩
    refine ⟨String.ofList before, String.ofList gap, String.ofList after, ?_,
      String.toList_inj.1 ?_⟩
    · simpa using inLine
    · simpa using equal
  · rintro ⟨before, gap, after, inLine, rfl⟩
    exact ⟨before.toList, gap.toList, after.toList, inLine, by simp⟩

theorem excludes_append (entry : Exclusion) {id : String} (excluded : entry.excludes id)
    (before after : String) : entry.excludes (before ++ id ++ after) := by
  cases entry with
  | text needle =>
      rw [excludes_text_iff] at excluded ⊢
      exact excluded.append before after
  | sameLine first last =>
      rw [excludes_sameLine_iff] at excluded ⊢
      exact excluded.append before after

end Exclusion

inductive Atom where
  | char (c : Char)
  | anyInLine

def specials : List Char :=
  ['\\', '.', '+', '*', '?', '(', ')', '|', '[', ']', '\x7b', '\x7d', '^', '$']

def atoms? : List Char → Option (List Atom)
  | [] => some []
  | '.' :: '*' :: rest => (atoms? rest).map (.anyInLine :: ·)
  | c :: rest => if c ∈ specials then none else (atoms? rest).map (.char c :: ·)

inductive Matches : List Atom → List Char → Prop
  | nil : Matches [] []
  | char (c : Char) {atoms : List Atom} {text : List Char} (rest : Matches atoms text) :
      Matches (.char c :: atoms) (c :: text)
  | anyInLine (gap : List Char) {atoms : List Atom} {text : List Char} (inLine : '\n' ∉ gap)
      (rest : Matches atoms text) : Matches (.anyInLine :: atoms) (gap ++ text)

def FoundBy (expression id : String) : Prop :=
  ∃ atoms, atoms? expression.toList = some atoms ∧
    ∃ found, Matches atoms found ∧ found <:+: id.toList

def IsPlain (text : List Char) : Prop := ∀ c ∈ text, c ∉ specials

theorem atoms?_cons_of_plain {c : Char} (plain : c ∉ specials) (rest : List Char) :
    atoms? (c :: rest) = (atoms? rest).map (.char c :: ·) := by
  rw [atoms?.eq_def]
  split
  · contradiction
  · rename_i equal
    cases equal
    exact absurd (by decide) plain
  · rename_i equal
    cases equal
    rw [if_neg plain]

theorem atoms?_append_of_plain {text : List Char} (plain : IsPlain text) (rest : List Char) :
    atoms? (text ++ rest) = (atoms? rest).map (text.map .char ++ ·) := by
  induction text with
  | nil => simp
  | cons c text ih =>
      obtain ⟨first, others⟩ := List.forall_mem_cons.1 plain
      rw [List.cons_append, atoms?_cons_of_plain first, ih others, Option.map_map]
      rfl

theorem atoms?_of_plain {text : List Char} (plain : IsPlain text) :
    atoms? text = some (text.map .char) := by
  have whole := atoms?_append_of_plain plain []
  rwa [List.append_nil, atoms?, Option.map_some, List.append_nil] at whole

theorem isPlain_of_bytes {text : String}
    (plain : (Text.utf8 text).all (· ∉ specials.map Char.toUInt8)) : IsPlain text.toList := by
  have oneByte : specials.all fun c => String.utf8EncodeChar c = [c.toUInt8] := by decide
  simp only [List.all_eq_true, decide_eq_true_eq] at plain oneByte
  intro c member special
  refine plain c.toUInt8 ?_ (List.mem_map_of_mem special)
  rw [Text.utf8_eq_flatMap, List.mem_flatMap]
  refine ⟨c, member, ?_⟩
  rw [oneByte c special]
  exact List.mem_singleton_self _

theorem matches_map_char_append_iff (text : List Char) (atoms : List Atom) (found : List Char) :
    Matches (text.map .char ++ atoms) found ↔ ∃ rest, found = text ++ rest ∧ Matches atoms rest := by
  induction text generalizing found with
  | nil => simp
  | cons c text ih =>
      constructor
      · intro describes
        cases describes with
        | char _ rest =>
          obtain ⟨more, rfl, others⟩ := (ih _).1 rest
          exact ⟨more, rfl, others⟩
      · rintro ⟨more, rfl, others⟩
        exact .char c ((ih _).2 ⟨more, rfl, others⟩)

theorem matches_anyInLine_iff (atoms : List Atom) (found : List Char) :
    Matches (.anyInLine :: atoms) found ↔
      ∃ gap rest, '\n' ∉ gap ∧ found = gap ++ rest ∧ Matches atoms rest := by
  constructor
  · intro describes
    cases describes with
    | anyInLine gap inLine rest => exact ⟨gap, _, inLine, rfl, rest⟩
  · rintro ⟨gap, rest, inLine, rfl, others⟩
    exact .anyInLine gap inLine others

theorem matches_map_char_iff (text found : List Char) :
    Matches (text.map .char) found ↔ found = text := by
  have whole := matches_map_char_append_iff text [] found
  have nothing (rest : List Char) : Matches [] rest ↔ rest = [] := by
    constructor
    · rintro ⟨⟩
      rfl
    · rintro rfl
      exact .nil
  simpa [nothing] using whole

namespace Exclusion

def expression : Exclusion → String
  | text needle => needle
  | sameLine first last => first ++ ".*" ++ last

def texts : Exclusion → List String
  | text needle => [needle]
  | sameLine first last => [first, last]

def atoms : Exclusion → List Atom
  | text needle => needle.toList.map .char
  | sameLine first last => first.toList.map .char ++ .anyInLine :: last.toList.map .char

theorem atoms?_expression {entry : Exclusion}
    (plain : ∀ text ∈ entry.texts, IsPlain text.toList) :
    atoms? entry.expression.toList = some entry.atoms := by
  cases entry with
  | text needle => exact atoms?_of_plain (plain needle List.mem_cons_self)
  | sameLine first last =>
      have before := plain first List.mem_cons_self
      have after := plain last (List.mem_cons_of_mem _ List.mem_cons_self)
      rw [expression, String.toList_append, String.toList_append, List.append_assoc,
        atoms?_append_of_plain before]
      change Option.map _ (Option.map _ (atoms? last.toList)) = _
      rw [atoms?_of_plain after]
      rfl

theorem foundBy_expression_iff {entry : Exclusion}
    (plain : ∀ text ∈ entry.texts, IsPlain text.toList) (id : String) :
    FoundBy entry.expression id ↔ entry.excludes id := by
  rw [FoundBy, atoms?_expression plain]
  simp only [Option.some.injEq, exists_eq_left']
  cases entry with
  | text needle =>
      rw [excludes, occurs_iff]
      simp only [atoms, matches_map_char_iff, exists_eq_left]
  | sameLine first last =>
      rw [excludes, occursTogether_iff]
      simp only [atoms, matches_map_char_append_iff, matches_anyInLine_iff, matches_map_char_iff]
      constructor
      · rintro ⟨_, ⟨_, rfl, gap, _, inLine, rfl, rfl⟩, before, after, equal⟩
        exact ⟨before, gap, after, inLine, by rw [← equal]; simp⟩
      · rintro ⟨before, gap, after, inLine, equal⟩
        refine ⟨_, ⟨_, rfl, gap, _, inLine, rfl, rfl⟩, before, after, ?_⟩
        rw [equal]
        simp

theorem isPlain_texts : ∀ entry ∈ unsupported ++ undocumented, ∀ text ∈ entry.texts,
    IsPlain text.toList := by
  have bytes : ∀ entry ∈ unsupported ++ undocumented, ∀ text ∈ entry.texts,
      (Text.utf8 text).all (· ∉ specials.map Char.toUInt8) := by
    decide +kernel
  exact fun entry member text inEntry => isPlain_of_bytes (bytes entry member text inEntry)

theorem any_excludes_iff (entries : List Exclusion) (id : String) :
    entries.any (·.excludes id) ↔ (∃ needle, text needle ∈ entries ∧ Holds id needle) ∨
      ∃ first last, sameLine first last ∈ entries ∧ HoldsOnLine id first last := by
  rw [List.any_eq_true]
  constructor
  · rintro ⟨needle | ⟨first, last⟩, member, excluded⟩
    · exact .inl ⟨needle, member, (excludes_text_iff needle id).1 excluded⟩
    · exact .inr ⟨first, last, member, (excludes_sameLine_iff first last id).1 excluded⟩
  · rintro (⟨needle, member, holds⟩ | ⟨first, last, member, holds⟩)
    · exact ⟨_, member, (excludes_text_iff needle id).2 holds⟩
    · exact ⟨_, member, (excludes_sameLine_iff first last id).2 holds⟩

theorem any_excludes_iff_foundBy {entries : List Exclusion}
    (known : entries ⊆ unsupported ++ undocumented) (id : String) :
    entries.any (·.excludes id) ↔ ∃ entry ∈ entries, FoundBy entry.expression id := by
  rw [List.any_eq_true]
  refine exists_congr fun entry => and_congr_right fun member => ?_
  exact (foundBy_expression_iff (isPlain_texts entry (known member)) id).symm

theorem any_excludes_append {entries : List Exclusion} {id : String}
    (excluded : entries.any (·.excludes id)) (before after : String) :
    entries.any (·.excludes (before ++ id ++ after)) := by
  rw [List.any_eq_true] at excluded ⊢
  obtain ⟨entry, member, excludes⟩ := excluded
  exact ⟨entry, member, entry.excludes_append excludes before after⟩

theorem sameLine_mem_unsupported_iff (first last : String) :
    sameLine first last ∈ unsupported ↔ first = "unused-imports/" ∧ last = "-ts" := by
  simp [unsupported]

theorem sameLine_not_mem_undocumented (first last : String) :
    sameLine first last ∉ undocumented := by
  simp [undocumented]

end Exclusion

theorem isUnsupported_iff (id : String) :
    isUnsupported id ↔ (∃ needle, .text needle ∈ Exclusion.unsupported ∧ Holds id needle) ∨
      HoldsOnLine id "unused-imports/" "-ts" := by
  rw [isUnsupported, Exclusion.any_excludes_iff]
  simp only [Exclusion.sameLine_mem_unsupported_iff, and_assoc, exists_eq_left,
    exists_and_left]

theorem isUndocumented_iff (id : String) :
    isUndocumented id ↔ ∃ needle, .text needle ∈ Exclusion.undocumented ∧ Holds id needle := by
  rw [isUndocumented, Exclusion.any_excludes_iff]
  simp only [Exclusion.sameLine_not_mem_undocumented, false_and, exists_false, or_false]

theorem isUnsupported_of_holds {id part : String} (holds : Holds id part)
    (excluded : isUnsupported part) : isUnsupported id := by
  obtain ⟨before, after, rfl⟩ := holds
  exact Exclusion.any_excludes_append excluded before after

end LintAdapter.Rule
