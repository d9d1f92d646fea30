import LintAdapter.OsString
import Mathlib.Tactic.Common

namespace LintAdapter.OsString

@[simp] theorem bytes_append (first second : OsString) :
    (first ++ second).bytes = first.bytes ++ second.bytes :=
  rfl

@[simp] theorem length_append (first second : OsString) :
    (first ++ second).length = first.length + second.length :=
  List.length_append

theorem append_assoc (first second third : OsString) :
    first ++ second ++ third = first ++ (second ++ third) :=
  OsString.ext (List.append_assoc _ _ _)

@[simp] theorem append_empty (string : OsString) : string ++ "" = string :=
  OsString.ext (List.append_nil _)

theorem ofText_empty : ofText "" = ⟨[]⟩ := rfl

theorem bytes_eq_nil_iff {string : OsString} : string.bytes = [] ↔ string = "" :=
  (@OsString.ext_iff string "").symm

theorem isEmpty_iff {string : OsString} : string.isEmpty ↔ string = "" := by
  rw [isEmpty, List.isEmpty_iff, bytes_eq_nil_iff]

@[simp] theorem append_eq_empty_iff {first second : OsString} :
    first ++ second = "" ↔ first = "" ∧ second = "" := by
  rw [← bytes_eq_nil_iff, bytes_append, List.append_eq_nil_iff, bytes_eq_nil_iff, bytes_eq_nil_iff]

theorem fromUTF8?_toUTF8 (text : String) : String.fromUTF8? text.toUTF8 = some text :=
  dif_pos text.isValidUTF8

theorem text?_eq_some_iff (string : OsString) (text : String) :
    string.text? = some text ↔ string = text := by
  constructor
  · intro decoded
    rw [text?, String.fromUTF8?] at decoded
    split_ifs at decoded with valid
    cases decoded
    rfl
  · rintro rfl
    exact fromUTF8?_toUTF8 text

@[simp] theorem text?_ofText (text : String) : (ofText text).text? = some text :=
  (text?_eq_some_iff _ text).2 rfl

@[simp] theorem isText_ofText (text : String) : (ofText text).isText := by
  rw [isText, text?_ofText, Option.isSome_some]

@[simp] theorem display_ofText (text : String) : (ofText text).display = text := by
  rw [display, text?_ofText, Option.getD_some]

theorem isText_iff (string : OsString) : string.isText ↔ ∃ text : String, string = text := by
  rw [isText, Option.isSome_iff_exists]
  exact exists_congr (text?_eq_some_iff string)

theorem eq_ofText_display {string : OsString} (isText : string.isText) :
    string = (string.display : OsString) := by
  obtain ⟨text, rfl⟩ := (isText_iff string).1 isText
  rw [display_ofText]

theorem ofText_append (first second : String) :
    ofText (first ++ second) = ofText first ++ ofText second := by
  apply OsString.ext
  change (first ++ second).toByteArray.data.toList = _
  rw [String.toByteArray_append]
  exact ByteArray.toList_data_append

end LintAdapter.OsString
