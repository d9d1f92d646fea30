import LintAdapter.Proofs.Json.Escape
import LintAdapter.Proofs.Json.NumberText

namespace LintAdapter.Json

/-- Where a character of a text stands: outside strings, inside one, or inside one right after the
backslash of an escape. -/
inductive Region where
  | outside
  | inside
  | escaped
  deriving DecidableEq

def Region.after : Region → Char → Region
  | .outside, c => if c = '"' then .inside else .outside
  | .inside, c => if c = '"' then .outside else if c = '\\' then .escaped else .inside
  | .escaped, _ => .inside

def squeezed (region : Region) : List Char → List Char
  | [] => []
  | c :: rest =>
    if region = .outside ∧ (c = ' ' ∨ c = '\n') then squeezed .outside rest
    else c :: squeezed (region.after c) rest

def withoutSpacing (text : String) : String := String.ofList (squeezed .outside text.toList)

def IsSolid (text : List Char) : Prop := ∀ c ∈ text, c ≠ ' ' ∧ c ≠ '\n' ∧ c ≠ '"'

@[simp] theorem isSolid_nil : IsSolid [] := List.forall_mem_nil _

@[simp] theorem isSolid_cons (c : Char) (rest : List Char) :
    IsSolid (c :: rest) ↔ (c ≠ ' ' ∧ c ≠ '\n' ∧ c ≠ '"') ∧ IsSolid rest :=
  List.forall_mem_cons

@[simp] theorem isSolid_append (first second : List Char) :
    IsSolid (first ++ second) ↔ IsSolid first ∧ IsSolid second :=
  List.forall_mem_append

theorem isSolid_of_digits {digits : List Char} (all : ∀ c ∈ digits, Token.isDigit c = true) :
    IsSolid digits := fun c member =>
  ⟨Token.isDigit_ne (all c member) rfl, Token.isDigit_ne (all c member) rfl,
    Token.isDigit_ne (all c member) rfl⟩

theorem Numeral.WellFormed.isSolid_text {numeral : Numeral} (wellFormed : numeral.WellFormed) :
    IsSolid numeral.text := by
  have fraction : IsSolid (fractionText numeral.fraction) := by
    have digits := isSolid_of_digits wellFormed.fraction
    cases given : numeral.fraction with
    | nil => exact isSolid_nil
    | cons c rest =>
        rw [given] at digits
        exact (isSolid_cons _ _).2 ⟨by decide, digits⟩
  have exponent : IsSolid (exponentText numeral.exponent) := by
    cases given : numeral.exponent with
    | none => exact isSolid_nil
    | some written =>
        obtain ⟨negative, digits⟩ := written
        have solid := isSolid_of_digits (wellFormed.exponent negative digits given).2
        cases negative <;> simp [exponentText, solid]
  have magnitude : IsSolid numeral.magnitude := by
    rw [Numeral.magnitude, isSolid_append, isSolid_append]
    exact ⟨⟨isSolid_of_digits wellFormed.whole, fraction⟩, exponent⟩
  rw [Numeral.text]
  split_ifs
  · exact (isSolid_cons _ _).2 ⟨by decide, magnitude⟩
  · exact magnitude

theorem isSolid_text (n : Json.Number) : IsSolid n.text := by
  obtain ⟨numeral, wellFormed, written⟩ := n.exists_numeral
  rw [written]
  exact wellFormed.isSolid_text

theorem squeezed_append_of_solid {text : List Char} (solid : IsSolid text) (rest : List Char) :
    squeezed .outside (text ++ rest) = text ++ squeezed .outside rest := by
  induction text with
  | nil => rfl
  | cons c text ih =>
      obtain ⟨⟨space, newline, quote⟩, others⟩ := (isSolid_cons c text).1 solid
      simp [squeezed, Region.after, space, newline, quote, ih others]

theorem squeezed_newLine (level : Nat) (rest : List Char) :
    squeezed .outside (Value.newLine level ++ rest) = squeezed .outside rest := by
  have spaces (n : Nat) :
      squeezed .outside (List.replicate n ' ' ++ rest) = squeezed .outside rest := by
    induction n with
    | zero => rfl
    | succ n ih => simp [List.replicate_succ, squeezed, ih]
  simp [Value.newLine, squeezed, spaces]

theorem squeezed_escapedChar (c : Char) (rest : List Char) :
    squeezed .inside (escapedChar c ++ rest) = escapedChar c ++ squeezed .inside rest := by
  have digit : ∀ n < 16, Nat.digitChar n ≠ '"' ∧ Nat.digitChar n ≠ '\\' := by decide
  have hexDigit (n : Nat) : Nat.digitChar (n % 16) ≠ '"' ∧ Nat.digitChar (n % 16) ≠ '\\' :=
    digit _ (Nat.mod_lt n (by decide))
  unfold escapedChar
  split_ifs with quote backslash
  case neg => simp [squeezed, Region.after, quote, backslash]
  all_goals simp [squeezed, Region.after, hexFour, hexDigit]

theorem squeezed_escapedString (text rest : List Char) :
    squeezed .outside (escapedString text ++ rest) =
      escapedString text ++ squeezed .outside rest := by
  have closed : squeezed .inside (text.flatMap escapedChar ++ '"' :: rest) =
      text.flatMap escapedChar ++ '"' :: squeezed .outside rest := by
    induction text with
    | nil => rfl
    | cons c text ih =>
        rw [List.flatMap_cons, List.append_assoc, squeezed_escapedChar, ih, List.append_assoc]
  simp [escapedString, squeezed, Region.after, closed]

namespace Value

theorem squeezed_member (name : String) (rest : List Char) :
    squeezed .outside (escapedString name.toList ++ ':' :: ' ' :: rest) =
      escapedString name.toList ++ ':' :: squeezed .outside rest := by
  rw [squeezed_escapedString]
  simp [squeezed, Region.after]

mutual

theorem squeezed_prettyChars (value : Value) (level : Nat) (rest : List Char) :
    squeezed .outside (value.prettyChars level ++ rest) =
      value.chars ++ squeezed .outside rest := by
  match value with
  | .null => exact squeezed_append_of_solid (by simp [prettyChars]) rest
  | .bool true => exact squeezed_append_of_solid (by simp [prettyChars]) rest
  | .bool false => exact squeezed_append_of_solid (by simp [prettyChars]) rest
  | .number n => exact squeezed_append_of_solid (isSolid_text n) rest
  | .text s => exact squeezed_escapedString s.toList rest
  | .list [] => exact squeezed_append_of_solid (by simp [prettyChars]) rest
  | .list (item :: items) =>
      have first := squeezed_prettyChars item
      have others := squeezed_prettyItemChars items
      simp [prettyChars, chars, squeezed, Region.after, squeezed_newLine, first, others]
  | .object [] => exact squeezed_append_of_solid (by simp [prettyChars]) rest
  | .object ((name, value) :: members) =>
      have first := squeezed_prettyChars value
      have others := squeezed_prettyMemberChars members
      simp [prettyChars, chars, squeezed, Region.after, squeezed_newLine, squeezed_member, first,
        others]

theorem squeezed_prettyItemChars (items : List Value) (level : Nat) (rest : List Char) :
    squeezed .outside (prettyItemChars level items ++ rest) =
      itemChars items ++ squeezed .outside rest := by
  match items with
  | [] => simp [prettyItemChars, itemChars, squeezed, Region.after, squeezed_newLine]
  | item :: items =>
      have first := squeezed_prettyChars item
      have others := squeezed_prettyItemChars items
      simp [prettyItemChars, itemChars, squeezed, Region.after, squeezed_newLine, first, others]

theorem squeezed_prettyMemberChars (members : List (String × Value)) (level : Nat)
    (rest : List Char) :
    squeezed .outside (prettyMemberChars level members ++ rest) =
      memberChars members ++ squeezed .outside rest := by
  match members with
  | [] => simp [prettyMemberChars, memberChars, squeezed, Region.after, squeezed_newLine]
  | (name, value) :: members =>
      have first := squeezed_prettyChars value
      have others := squeezed_prettyMemberChars members
      simp [prettyMemberChars, memberChars, squeezed, Region.after, squeezed_newLine,
        squeezed_member, first, others]

end

theorem withoutSpacing_pretty_append (value : Value) (after : String) :
    withoutSpacing (value.pretty ++ after) = value.compact ++ withoutSpacing after := by
  simp [withoutSpacing, pretty, compact, squeezed_prettyChars]

theorem withoutSpacing_pretty (value : Value) : withoutSpacing value.pretty = value.compact := by
  have whole := withoutSpacing_pretty_append value ""
  have nothing : withoutSpacing "" = "" := rfl
  rwa [nothing, String.append_empty, String.append_empty] at whole

end Value

end LintAdapter.Json
