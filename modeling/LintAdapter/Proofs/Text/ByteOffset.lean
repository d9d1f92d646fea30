import LintAdapter.Proofs.Text.Utf16
import Mathlib.Data.List.DropRight
import Mathlib.Data.String.Basic
import Mathlib.Order.Monotone.Basic

namespace LintAdapter.Text

def byteCount (text : List Char) : Nat := (String.ofList text).utf8ByteSize

def byteOffset (text : List Char) (position : Nat) : Nat := byteCount (text.take position)

def IsByteBoundary (text : String) (offset : Nat) : Prop := (String.Pos.Raw.mk offset).IsValid text

instance (text : String) (offset : Nat) : Decidable (IsByteBoundary text offset) :=
  inferInstanceAs (Decidable (String.Pos.Raw.IsValid text _))

inductive Misstep where
  | cut (start stop : Nat)
  | subtraction (minuend subtrahend : Nat)
  deriving DecidableEq

def subtract (minuend subtrahend : Nat) : Except Misstep Nat :=
  if subtrahend ≤ minuend then .ok (minuend - subtrahend)
  else .error (.subtraction minuend subtrahend)

def cut (text : String) (start stop : Nat) : Except Misstep String :=
  if fits : start ≤ stop ∧ IsByteBoundary text start ∧ IsByteBoundary text stop then
    .ok (text.extract ⟨⟨start⟩, fits.2.1⟩ ⟨⟨stop⟩, fits.2.2⟩)
  else .error (.cut start stop)

def lineFeeds : List Char → List Nat
  | [] => []
  | c :: rest => (if c = '\n' then [0] else []) ++ (lineFeeds rest).map (c.utf8Size + ·)

def seekUnits (offset : Nat) : (rest : List Char) → (units bytes : Nat) → Option Nat
  | [], units, bytes => if units = offset then some bytes else none
  | c :: rest, units, bytes =>
    if units = offset then some bytes
    else if offset < units then none
    else seekUnits offset rest (units + unitCount c) (bytes + c.utf8Size)

def unitByte (text : String) (offset : Nat) : Option Nat := seekUnits offset text.toList 0 0

@[simp] theorem byteCount_nil : byteCount [] = 0 := rfl

theorem byteCount_append (first second : List Char) :
    byteCount (first ++ second) = byteCount first + byteCount second := by
  rw [byteCount, String.ofList_append, String.utf8ByteSize_append]
  rfl

theorem byteCount_singleton (c : Char) : byteCount [c] = c.utf8Size := by
  rw [byteCount, ← String.singleton_eq_ofList, String.utf8ByteSize_singleton]

theorem byteCount_cons (c : Char) (rest : List Char) :
    byteCount (c :: rest) = c.utf8Size + byteCount rest := by
  rw [← List.singleton_append, byteCount_append, byteCount_singleton]

theorem byteCount_toList (text : String) : byteCount text.toList = text.utf8ByteSize := by
  rw [byteCount, String.ofList_toList]

theorem byteOffset_length (text : List Char) : byteOffset text text.length = byteCount text := by
  rw [byteOffset, List.take_length]

theorem byteOffset_of_prefix {text before : List Char} (begins : before <+: text) :
    byteOffset text before.length = byteCount before := by
  rw [byteOffset, ← List.prefix_iff_eq_take.1 begins]

theorem byteOffset_succ (c : Char) (rest : List Char) (position : Nat) :
    byteOffset (c :: rest) (position + 1) = c.utf8Size + byteOffset rest position := by
  rw [byteOffset, List.take_succ_cons, byteCount_cons]
  rfl

theorem byteOffset_add (text : List Char) (position more : Nat) :
    byteOffset text (position + more) =
      byteOffset text position + byteOffset (text.drop position) more := by
  rw [byteOffset, List.take_add, byteCount_append]
  rfl

theorem byteOffset_mono (text : List Char) : Monotone (byteOffset text) := by
  intro first second le
  obtain ⟨more, rfl⟩ := Nat.exists_eq_add_of_le le
  rw [byteOffset_add]
  exact Nat.le_add_right _ _

theorem byteOffset_add_byteCount_drop (text : List Char) (position : Nat) :
    byteOffset text position + byteCount (text.drop position) = byteCount text := by
  rw [byteOffset, ← byteCount_append, List.take_append_drop]

theorem getD_map_byteOffset (text : String) (found : Option Nat) :
    (found.map (byteOffset text.toList)).getD text.utf8ByteSize =
      byteOffset text.toList (found.getD text.toList.length) := by
  rw [← byteCount_toList, ← byteOffset_length, Option.getD_map]

theorem isByteBoundary_iff (text : String) (offset : Nat) :
    IsByteBoundary text offset ↔ ∃ position, offset = byteOffset text.toList position :=
  String.Pos.Raw.isValid_iff_exists_take_toList

theorem isByteBoundary_byteOffset (text : String) (position : Nat) :
    IsByteBoundary text (byteOffset text.toList position) :=
  (isByteBoundary_iff text _).2 ⟨position, rfl⟩

theorem IsByteBoundary.le_utf8ByteSize {text : String} {offset : Nat}
    (boundary : IsByteBoundary text offset) : offset ≤ text.utf8ByteSize :=
  String.Pos.Raw.IsValid.le_utf8ByteSize boundary

theorem subtract_of_le {minuend subtrahend : Nat} (le : subtrahend ≤ minuend) :
    subtract minuend subtrahend = .ok (minuend - subtrahend) := if_pos le

theorem extract_middle {text piece : String} (before after : String)
    (parts : text = before ++ piece ++ after) (start stop : text.Pos)
    (atStart : start.offset.byteIdx = before.utf8ByteSize)
    (atStop : stop.offset.byteIdx = before.utf8ByteSize + piece.utf8ByteSize) :
    text.extract start stop = piece := by
  have shifted := ByteArray.extract_append_size_add (a := before.toByteArray)
    (b := piece.toByteArray ++ after.toByteArray) (i := 0) (j := piece.toByteArray.size)
  rw [Nat.add_zero, ByteArray.extract_append_eq_left rfl] at shifted
  subst parts
  apply String.toByteArray_inj.1
  rw [String.toByteArray_extract, atStart, atStop]
  simp only [String.toByteArray_append, ← String.size_toByteArray, ByteArray.append_assoc]
  exact shifted

theorem cut_byteOffset (text : String) {start stop : Nat} (ordered : start ≤ stop) :
    cut text (byteOffset text.toList start) (byteOffset text.toList stop) =
      .ok (String.ofList ((text.toList.take stop).drop start)) := by
  have fits := byteOffset_mono text.toList ordered
  have upTo : text.toList.take start ++ (text.toList.take stop).drop start =
      text.toList.take stop := by
    conv_rhs => rw [← List.take_append_drop start (text.toList.take stop)]
    rw [List.take_take, min_eq_left ordered]
  rw [cut, dif_pos ⟨fits, isByteBoundary_byteOffset text _, isByteBoundary_byteOffset text _⟩]
  apply congrArg Except.ok
  apply extract_middle (String.ofList (text.toList.take start))
    (String.ofList (text.toList.drop stop))
  · rw [← String.ofList_append, ← String.ofList_append, upTo, List.take_append_drop,
      String.ofList_toList]
  · rfl
  · change byteOffset _ _ = byteCount _ + byteCount _
    rw [← byteCount_append, upTo]
    rfl

theorem cut_take (text : String) (position : Nat) :
    cut text 0 (byteOffset text.toList position) =
      .ok (String.ofList (text.toList.take position)) :=
  cut_byteOffset text (Nat.zero_le position)

theorem cut_drop (text : String) {position : Nat} (inside : position ≤ text.toList.length) :
    cut text (byteOffset text.toList position) text.utf8ByteSize =
      .ok (String.ofList (text.toList.drop position)) := by
  have after := cut_byteOffset text inside
  rwa [List.take_length, byteOffset_length, byteCount_toList] at after

theorem lineFeeds_newline (rest : List Char) :
    lineFeeds ('\n' :: rest) = 0 :: (lineFeeds rest).map ('\n'.utf8Size + ·) := rfl

theorem lineFeeds_cons {c : Char} (other : c ≠ '\n') (rest : List Char) :
    lineFeeds (c :: rest) = (lineFeeds rest).map (c.utf8Size + ·) := by
  rw [lineFeeds, if_neg other, List.nil_append]

theorem lineFeeds_append (first second : List Char) :
    lineFeeds (first ++ second) =
      lineFeeds first ++ (lineFeeds second).map (byteCount first + ·) := by
  induction first with
  | nil => simp [lineFeeds]
  | cons c rest ih =>
      rw [List.cons_append, lineFeeds, ih, lineFeeds, List.map_append, List.map_map,
        List.append_assoc, byteCount_cons]
      simp only [Function.comp_def, Nat.add_assoc]

theorem head?_lineFeeds (text : List Char) :
    (lineFeeds text).head?.getD (byteCount text) = byteCount (text.takeWhile (· ≠ '\n')) := by
  induction text with
  | nil => rfl
  | cons c rest ih =>
      by_cases newline : c = '\n'
      · subst newline
        rfl
      · rw [lineFeeds_cons newline, List.takeWhile_cons_of_pos (by simpa using newline),
          byteCount_cons, byteCount_cons, ← ih]
        cases lineFeeds rest <;> rfl

theorem getLast?_lineFeeds (text : List Char) :
    (lineFeeds text).getLast?.elim 0 (· + 1) = byteCount (text.rdropWhile (· ≠ '\n')) := by
  induction text using List.reverseRecOn with
  | nil => rfl
  | append_singleton rest c ih =>
      rw [lineFeeds_append]
      by_cases newline : c = '\n'
      · subst newline
        have one : byteCount ['\n'] = 1 := byteCount_singleton '\n'
        rw [List.rdropWhile_concat_neg _ _ _ (by simp), byteCount_append, one]
        simp [lineFeeds]
      · rw [lineFeeds_cons newline, List.rdropWhile_concat_pos _ _ _ (by simpa using newline), ← ih]
        simp [lineFeeds]

theorem seekUnits_eq (offset : Nat) (rest : List Char) (units bytes : Nat) :
    seekUnits offset rest units bytes =
      if units ≤ offset then
        (unitPosition rest (offset - units)).map (bytes + byteOffset rest ·)
      else none := by
  induction rest generalizing units bytes with
  | nil =>
      rcases Nat.lt_trichotomy units offset with before | here | past
      · obtain ⟨more, rfl⟩ := Nat.exists_eq_add_of_lt before
        simp [seekUnits, unitPosition, Nat.add_assoc]
      · simp [seekUnits, here, unitPosition, byteOffset]
      · simp [seekUnits, past.ne', past]
  | cons c rest ih =>
      rcases Nat.lt_trichotomy units offset with before | here | past
      · obtain ⟨more, rfl⟩ := Nat.exists_eq_add_of_lt before
        have left : units + more + 1 - units = more + 1 := by omega
        rw [seekUnits, if_neg before.ne, if_neg (Nat.lt_asymm before), ih, if_pos before.le, left,
          unitPosition]
        by_cases fits : unitCount c ≤ more + 1
        · have leftAfter : units + more + 1 - (units + unitCount c) = more + 1 - unitCount c := by
            omega
          rw [if_pos fits, if_pos (by omega), leftAfter, Option.map_map]
          simp only [Function.comp_def, byteOffset_succ, Nat.add_assoc]
        · -- The search steps over the character and then finds itself too far.
          rw [if_neg fits, if_neg (by omega), Option.map_none]
      · simp [seekUnits, here, unitPosition, byteOffset]
      · rw [seekUnits, if_neg past.ne', if_pos past, if_neg (Nat.not_le.2 past)]

theorem unitByte_eq (text : String) (offset : Nat) :
    unitByte text offset = (unitPosition text.toList offset).map (byteOffset text.toList) := by
  rw [unitByte, seekUnits_eq, if_pos (Nat.zero_le _), Nat.sub_zero]
  simp only [Nat.zero_add]

end LintAdapter.Text
