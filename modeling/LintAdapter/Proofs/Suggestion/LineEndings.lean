import LintAdapter.Proofs.Suggestion.Window
import Mathlib.Order.Monotone.Basic

namespace LintAdapter.Suggestion

open Text (utf16 unitPosition unitCount)

def withReturns (text : List Char) : List Char :=
  text.flatMap fun c => if c = '\n' then ['\r', '\n'] else [c]

/-- Where an offset is when each line feed before it takes one more unit. -/
def movedOffset (source : List Char) (offset : Nat) : Nat :=
  offset + ((utf16 source).take offset).count 0x0a

structure Moves (source : List Char) (fix moved : Fix) : Prop where
  start : moved.start.toNat = movedOffset source fix.start.toNat
  stop : moved.stop.toNat = movedOffset source fix.stop.toNat
  text : moved.text = fix.text ∨ moved.text = String.ofList (withReturns fix.text.toList)

/-! ### Adding and removing returns -/

@[simp] theorem withReturns_nil : withReturns [] = [] := rfl

@[simp] theorem withReturns_newline (rest : List Char) :
    withReturns ('\n' :: rest) = '\r' :: '\n' :: withReturns rest := rfl

theorem withReturns_cons {c : Char} (other : c ≠ '\n') (rest : List Char) :
    withReturns (c :: rest) = c :: withReturns rest := by
  simp [withReturns, other]

theorem withReturns_append (first second : List Char) :
    withReturns (first ++ second) = withReturns first ++ withReturns second :=
  List.flatMap_append

theorem count_withReturns (text : List Char) : (withReturns text).count '\n' = text.count '\n' := by
  induction text with
  | nil => rfl
  | cons c rest ih =>
      by_cases newline : c = '\n'
      · simp [newline, ih]
      · simp [withReturns_cons newline, newline, ih]

theorem plainLineFeeds_cons {c : Char} (other : c ≠ '\r') (rest : List Char) :
    plainLineFeeds (c :: rest) = c :: plainLineFeeds rest := by
  rw [plainLineFeeds.eq_def]
  split <;> simp_all

theorem plainLineFeeds_append {text : List Char} (noReturn : '\r' ∉ text) (rest : List Char) :
    plainLineFeeds (text ++ rest) = text ++ plainLineFeeds rest := by
  induction text with
  | nil => rfl
  | cons c text ih =>
      simp only [List.mem_cons, not_or] at noReturn
      rw [List.cons_append, plainLineFeeds_cons (Ne.symm noReturn.1), ih noReturn.2]
      rfl

theorem plainLineFeeds_withReturns_append {text : List Char} (noReturn : '\r' ∉ text)
    (rest : List Char) :
    plainLineFeeds (withReturns text ++ rest) = text ++ plainLineFeeds rest := by
  induction text with
  | nil => rfl
  | cons c text ih =>
      simp only [List.mem_cons, not_or] at noReturn
      by_cases newline : c = '\n'
      · subst newline
        rw [withReturns_newline, List.cons_append, List.cons_append, plainLineFeeds, ih noReturn.2]
        rfl
      · rw [withReturns_cons newline, List.cons_append, plainLineFeeds_cons (Ne.symm noReturn.1),
          ih noReturn.2]
        rfl

theorem dropFinalReturn_append {text tail : List Char} (noReturn : '\r' ∉ text)
    (cut : tail = [] ∨ tail = ['\r']) : dropFinalReturn (text ++ tail) = text := by
  rcases cut with rfl | rfl
  · rw [List.append_nil, dropFinalReturn, if_neg]
    intro last
    exact noReturn (List.mem_of_getLast? last)
  · simp [dropFinalReturn]

theorem plain_written {before text after written tail : List Char} (noReturnBefore : '\r' ∉ before)
    (noReturn : '\r' ∉ text) (noReturnAfter : '\r' ∉ after)
    (writes : written = text ∨ written = withReturns text) (cut : tail = [] ∨ tail = ['\r']) :
    dropFinalReturn (plainLineFeeds
      (withReturns before ++ (written ++ (withReturns after ++ tail)))) =
        before ++ text ++ after := by
  have inner (rest : List Char) :
      plainLineFeeds (written ++ rest) = text ++ plainLineFeeds rest := by
    rcases writes with rfl | rfl
    · exact plainLineFeeds_append noReturn rest
    · exact plainLineFeeds_withReturns_append noReturn rest
  have rest : plainLineFeeds tail = tail := by
    rcases cut with rfl | rfl <;> rfl
  rw [plainLineFeeds_withReturns_append noReturnBefore, inner,
    plainLineFeeds_withReturns_append noReturnAfter, rest, ← List.append_assoc, ← List.append_assoc]
  apply dropFinalReturn_append _ cut
  simp [noReturnBefore, noReturn, noReturnAfter]

theorem plain_of_noReturn {text : List Char} (noReturn : '\r' ∉ text) :
    dropFinalReturn (plainLineFeeds text) = text := by
  have plain := plainLineFeeds_append noReturn []
  rw [List.append_nil, plainLineFeeds, List.append_nil] at plain
  rw [plain]
  simpa using dropFinalReturn_append noReturn (.inl rfl)

/-! ### Offsets -/

theorem unitPosition_cons (c : Char) (rest : List Char) (offset : Nat) :
    unitPosition (c :: rest) (unitCount c + offset) = (unitPosition rest offset).map (· + 1) := by
  obtain ⟨before, count⟩ := Nat.exists_eq_succ_of_ne_zero (Text.unitCount_pos c).ne'
  rw [count, Nat.succ_add, unitPosition, if_pos (by omega), count]
  simp

theorem unitPosition_cons_of_lt {c : Char} {offset : Nat} (inside : offset + 1 < unitCount c)
    (rest : List Char) : unitPosition (c :: rest) (offset + 1) = none := by
  rw [unitPosition, if_neg (Nat.not_le.2 inside)]

theorem movedOffset_cons (c : Char) (rest : List Char) (offset : Nat) :
    movedOffset (c :: rest) (unitCount c + offset) =
      unitCount c + movedOffset rest offset + if c = '\n' then 1 else 0 := by
  rw [movedOffset, movedOffset, Text.utf16_cons, ← Text.length_utf16Char,
    List.take_length_add_append, List.count_append, Text.count_utf16Char]
  omega

theorem movedOffset_cons_of_lt {c : Char} (other : c ≠ '\n') {offset : Nat}
    (inside : offset < unitCount c) (rest : List Char) :
    movedOffset (c :: rest) offset = offset := by
  have few := ((Text.utf16Char c).take_sublist offset).count_le 0x0a
  rw [Text.count_utf16Char, if_neg other, Nat.le_zero] at few
  rw [movedOffset, Text.utf16_cons, List.take_append_of_le_length, few, Nat.add_zero]
  rw [Text.length_utf16Char]
  exact inside.le

theorem unitPosition_withReturns (source : List Char) (offset : Nat) :
    unitPosition (withReturns source) (movedOffset source offset) =
      (unitPosition source offset).map fun position =>
        (withReturns (source.take position)).length := by
  induction source generalizing offset with
  | nil => cases offset <;> simp [movedOffset, utf16, unitPosition]
  | cons c rest ih =>
      rcases Nat.lt_or_ge offset (unitCount c) with inside | beyond
      · cases offset with
        | zero => simp [movedOffset, unitPosition]
        | succ offset =>
            have other : c ≠ '\n' := by
              rintro rfl
              exact absurd inside (by simp [unitCount])
            rw [movedOffset_cons_of_lt other inside, withReturns_cons other,
              unitPosition_cons_of_lt inside, unitPosition_cons_of_lt inside, Option.map_none]
      · obtain ⟨more, rfl⟩ := Nat.exists_eq_add_of_le beyond
        rw [movedOffset_cons, unitPosition_cons, Option.map_map]
        by_cases newline : c = '\n'
        · -- The return takes up the unit by which the offset is moved.
          subst newline
          have both : unitCount '\n' + movedOffset rest more + 1 =
              unitCount '\r' + (unitCount '\n' + movedOffset rest more) := by
            rw [Nat.add_comm]
            rfl
          rw [if_pos rfl, both, withReturns_newline, unitPosition_cons, unitPosition_cons, ih]
          simp [Function.comp_def]
        · rw [if_neg newline, Nat.add_zero, withReturns_cons newline, unitPosition_cons, ih]
          simp [Function.comp_def, withReturns_cons newline]

theorem movedOffset_lt {first second : Nat} (less : first < second) (source : List Char) :
    movedOffset source first < movedOffset source second := by
  have fewer := (List.take_sublist_take_left (l := utf16 source) less.le).count_le 0x0a
  rw [movedOffset, movedOffset]
  omega

theorem movedOffset_le_iff (source : List Char) (first second : Nat) :
    movedOffset source first ≤ movedOffset source second ↔ first ≤ second := by
  have increases : StrictMono (movedOffset source) := fun _ _ less => movedOffset_lt less source
  exact increases.le_iff_le

/-! ### Lines -/

theorem withReturns_take_drop (source : List Char) (position : Nat) :
    withReturns source =
      withReturns (source.take position) ++ withReturns (source.drop position) := by
  rw [← withReturns_append, List.take_append_drop]

theorem lineAtOffset_withReturns {source : List Char} {offset position : Nat}
    (found : unitPosition source offset = some position) :
    lineAtOffset (withReturns source) (movedOffset source offset) = lineAtOffset source offset := by
  have moved := unitPosition_withReturns source offset
  rw [found, Option.map_some] at moved
  rw [lineAtOffset_eq found, lineAtOffset_eq moved, lineAt, lineAt,
    withReturns_take_drop source position, List.take_left, count_withReturns]

theorem beforeLine_withReturns (source : List Char) {line : Nat}
    (inside : line ≤ source.count '\n' + 1) :
    beforeLine (withReturns source) line = withReturns (beforeLine source line) := by
  induction source generalizing line with
  | nil =>
      have first : line - 1 = 0 := Nat.sub_eq_zero_of_le inside
      simp [beforeLine, first]
  | cons c rest ih =>
      rcases line with _ | _ | line
      · simp [beforeLine]
      · simp [beforeLine]
      · by_cases newline : c = '\n'
        · subst newline
          rw [List.count_cons_self] at inside
          rw [withReturns_newline, beforeLine_cons (by decide), beforeLine_newline,
            beforeLine_newline, ih (by omega), withReturns_newline]
        · rw [List.count_cons_of_ne newline] at inside
          rw [withReturns_cons newline, beforeLine_cons newline, beforeLine_cons newline,
            ih inside, withReturns_cons newline]

theorem afterLine_newline (rest : List Char) (line : Nat) :
    afterLine ('\n' :: rest) (line + 1) = afterLine rest line := by
  rw [afterLine, lines_newline, List.drop_succ_cons]
  rfl

theorem afterLine_cons {c : Char} (other : c ≠ '\n') (rest : List Char) (line : Nat) :
    afterLine (c :: rest) (line + 1) = afterLine rest (line + 1) := by
  obtain ⟨first, others, split⟩ := lines_eq_cons rest
  rw [afterLine, afterLine, lines_cons other, split, List.modifyHead_cons, List.drop_succ_cons,
    List.drop_succ_cons]

theorem withReturns_afterLine (source : List Char) (line : Nat) :
    ∃ tail, (tail = [] ∨ tail = ['\r']) ∧
      withReturns (afterLine source (line + 1)) =
        tail ++ afterLine (withReturns source) (line + 1) := by
  induction source generalizing line with
  | nil => exact ⟨[], .inl rfl, by simp [afterLine, lines_nil]⟩
  | cons c rest ih =>
      by_cases newline : c = '\n'
      · subst newline
        rw [withReturns_newline, afterLine_cons (c := '\r') (by decide), afterLine_newline,
          afterLine_newline]
        cases line with
        | zero =>
            -- The line ends here: its return stays before the rest that begins with the line feed.
            refine ⟨['\r'], .inr rfl, ?_⟩
            rw [afterLine, afterLine, List.drop_zero, List.drop_zero, flatMap_cons_lines,
              flatMap_cons_lines, withReturns_newline]
            rfl
        | succ line => exact ih line
      · rw [withReturns_cons newline, afterLine_cons newline, afterLine_cons newline]
        exact ih line

/-! ### Fixes -/

section

variable {source : List Char} {line : Nat} {endLine : Option Nat} {fix moved : Fix}

theorem Moves.fits_iff (moves : Moves source fix moved) :
    Fits (withReturns source) line moved ↔ Fits source line fix := by
  have boundary (offset : Nat) :
      Text.IsBoundary (utf16 (withReturns source)) (movedOffset source offset) ↔
        Text.IsBoundary (utf16 source) offset := by
    rw [← Text.unitPosition_isSome_iff, ← Text.unitPosition_isSome_iff, unitPosition_withReturns,
      Option.isSome_map]
  constructor
  · intro fits
    refine ⟨?_, ?_, ?_, ?_⟩
    · have ordered := UInt64.le_iff_toNat_le.1 fits.ordered
      rw [moves.start, moves.stop, movedOffset_le_iff] at ordered
      exact UInt64.le_iff_toNat_le.2 ordered
    · exact (boundary _).1 (moves.start ▸ fits.start)
    · exact (boundary _).1 (moves.stop ▸ fits.stop)
    · exact count_withReturns source ▸ fits.line
  · intro fits
    refine ⟨?_, ?_, ?_, ?_⟩
    · rw [UInt64.le_iff_toNat_le, moves.start, moves.stop, movedOffset_le_iff]
      exact UInt64.le_iff_toNat_le.1 fits.ordered
    · exact moves.start ▸ (boundary _).2 fits.start
    · exact moves.stop ▸ (boundary _).2 fits.stop
    · exact (count_withReturns source).symm ▸ fits.line

theorem Moves.lastShown_eq (moves : Moves source fix moved) {window : Window}
    (found : window? source line endLine fix = some window) :
    lastShown (withReturns source) line endLine moved = lastShown source line endLine fix := by
  obtain ⟨-, -, atStop, -⟩ := (window?_eq_some_iff source line endLine fix window).1 found
  rw [lastShown, lastShown, count_withReturns, moves.stop, lineAtOffset_withReturns atStop]

theorem Moves.take_first (moves : Moves source fix moved) {window movedWindow : Window}
    (found : window? source line endLine fix = some window)
    (movedFound : window? (withReturns source) line endLine moved = some movedWindow) :
    (withReturns source).take movedWindow.first = withReturns (source.take window.first) := by
  obtain ⟨-, atStart, -⟩ := (window?_eq_some_iff source line endLine fix window).1 found
  have fits := (exists_window_iff source line endLine fix).1 ⟨window, found⟩
  rw [take_window_first movedFound, take_window_first found, firstShown, moves.start,
    lineAtOffset_withReturns atStart]
  exact beforeLine_withReturns source ((Nat.min_le_left _ _).trans fits.line)

theorem Moves.drop_last (moves : Moves source fix moved) {window movedWindow : Window}
    (found : window? source line endLine fix = some window)
    (movedFound : window? (withReturns source) line endLine moved = some movedWindow) :
    ∃ tail, (tail = [] ∨ tail = ['\r']) ∧
      withReturns (source.drop window.last) =
        tail ++ (withReturns source).drop movedWindow.last := by
  rw [drop_window_last movedFound, drop_window_last found, moves.lastShown_eq found]
  obtain ⟨before, last⟩ : ∃ before, lastShown source line endLine fix = before + 1 := by
    refine Nat.exists_eq_succ_of_ne_zero (Nat.pos_iff_ne_zero.1 ?_)
    exact (Nat.succ_pos _).trans_le (Nat.le_max_right _ _)
  rw [last]
  exact withReturns_afterLine source before

theorem Moves.take_start (moves : Moves source fix moved) {window movedWindow : Window}
    (found : window? source line endLine fix = some window)
    (movedFound : window? (withReturns source) line endLine moved = some movedWindow) :
    (withReturns source).take movedWindow.start = withReturns (source.take window.start) ∧
      (withReturns source).drop movedWindow.stop = withReturns (source.drop window.stop) := by
  obtain ⟨-, atStart, atStop, -⟩ := (window?_eq_some_iff _ _ _ _ _).1 found
  obtain ⟨-, movedStart, movedStop, -⟩ := (window?_eq_some_iff _ _ _ _ _).1 movedFound
  rw [moves.start, unitPosition_withReturns, atStart, Option.map_some, Option.some.injEq]
    at movedStart
  rw [moves.stop, unitPosition_withReturns, atStop, Option.map_some, Option.some.injEq]
    at movedStop
  constructor
  · rw [← movedStart, withReturns_take_drop source window.start, List.take_left]
  · rw [← movedStop, withReturns_take_drop source window.stop, List.drop_left]

theorem Moves.applyFix_eq (moves : Moves source fix moved) {window movedWindow : Window}
    (found : window? source line endLine fix = some window)
    (movedFound : window? (withReturns source) line endLine moved = some movedWindow)
    (replacement : List Char) :
    ∃ tail, (tail = [] ∨ tail = ['\r']) ∧
      movedWindow.applyFix (withReturns source) replacement =
        withReturns ((source.take window.start).drop window.first) ++ (replacement ++
          (withReturns ((source.take window.last).drop window.stop) ++ tail)) := by
  obtain ⟨tail, cut, after⟩ := moves.drop_last found movedFound
  obtain ⟨start, stop⟩ := moves.take_start found movedFound
  have whole := applyFix_in_source movedFound replacement
  rw [moves.take_first found movedFound, start, stop, ← take_window_start found,
    ← drop_window_stop found, withReturns_append, withReturns_append, after] at whole
  refine ⟨tail, cut, ?_⟩
  apply (List.append_right_inj (withReturns (source.take window.first))).1
  apply (List.append_left_inj ((withReturns source).drop movedWindow.last)).1
  rw [whole]
  simp only [List.append_assoc]

end

theorem compute_of_offers {fix : Option Fix} {alternatives : Option (List Alternative)}
    {chosen : Fix} (offered : Offers fix alternatives chosen) (source : String) (line : UInt64)
    (endLine : Option UInt64) :
    compute source line endLine fix alternatives =
      (window? source.toList line.toNat (endLine.map UInt64.toNat) chosen).map fun window =>
        String.ofList (dropFinalReturn (plainLineFeeds
          (window.applyFix source.toList chosen.text.toList))) := by
  rw [compute, (chosenFix?_eq_some_iff fix alternatives chosen).2 offered]
  cases found : window? source.toList line.toNat (endLine.map UInt64.toNat) chosen <;> simp [found]

/-- The moved fix gives the source with carriage returns the suggestion that the fix gives the
source without them, or none where there is none. -/
theorem compute_ignores_line_endings (source : String) (line : UInt64) (endLine : Option UInt64)
    (fix movedFix : Option Fix) (alternatives movedAlternatives : Option (List Alternative))
    (chosen moved : Fix) (noReturn : '\r' ∉ source.toList)
    (noReturnInText : '\r' ∉ chosen.text.toList) (offered : Offers fix alternatives chosen)
    (movedOffered : Offers movedFix movedAlternatives moved)
    (moves : Moves source.toList chosen moved) :
    compute (String.ofList (withReturns source.toList)) line endLine movedFix movedAlternatives =
      compute source line endLine fix alternatives := by
  rw [compute_of_offers movedOffered, compute_of_offers offered, String.toList_ofList]
  cases found : window? source.toList line.toNat (endLine.map UInt64.toNat) chosen with
  | none =>
      have missing : window? (withReturns source.toList) line.toNat (endLine.map UInt64.toNat)
          moved = none := by
        rw [Option.eq_none_iff_forall_ne_some]
        intro movedWindow movedFound
        have fits := moves.fits_iff.1 ((exists_window_iff _ _ _ _).1 ⟨movedWindow, movedFound⟩)
        obtain ⟨window, present⟩ := (exists_window_iff _ _ (endLine.map UInt64.toNat) _).2 fits
        rw [found] at present
        cases present
      rw [missing, Option.map_none, Option.map_none]
  | some window =>
      have fits := (exists_window_iff _ _ _ _).1 ⟨window, found⟩
      obtain ⟨movedWindow, movedFound⟩ :=
        (exists_window_iff _ _ (endLine.map UInt64.toNat) _).2 (moves.fits_iff.2 fits)
      obtain ⟨tail, cut, applied⟩ := moves.applyFix_eq found movedFound moved.text.toList
      have writes : moved.text.toList = chosen.text.toList ∨
          moved.text.toList = withReturns chosen.text.toList := by
        rcases moves.text with same | returned
        · exact .inl (congrArg String.toList same)
        · exact .inr (by rw [returned, String.toList_ofList])
      have noReturnBefore : '\r' ∉ (source.toList.take window.start).drop window.first :=
        fun member => noReturn (List.mem_of_mem_take (List.mem_of_mem_drop member))
      have noReturnAfter : '\r' ∉ (source.toList.take window.last).drop window.stop :=
        fun member => noReturn (List.mem_of_mem_take (List.mem_of_mem_drop member))
      have noReturnShown : '\r' ∉ window.applyFix source.toList chosen.text.toList := by
        simp [Window.applyFix, noReturnBefore, noReturnInText, noReturnAfter]
      rw [movedFound, Option.map_some, Option.map_some, applied,
        plain_written noReturnBefore noReturnInText noReturnAfter writes cut,
        plain_of_noReturn noReturnShown, Window.applyFix]

theorem compute_joins_lines_with_returns :
    compute "a\r\nb\r\n" 1 none (some ⟨1, 3, " =\r\n  "⟩) none = some "a =\n  b" := by
  have moves : Moves "a\nb\n".toList ⟨1, 2, " =\n  "⟩ ⟨1, 3, " =\r\n  "⟩ :=
    ⟨by decide, by decide, .inr (by decide)⟩
  have same := compute_ignores_line_endings "a\nb\n" 1 none (some ⟨1, 2, " =\n  "⟩)
    (some ⟨1, 3, " =\r\n  "⟩) none none _ _ (by decide) (by decide) (.own _ none) (.own _ none)
    moves
  have plain : compute "a\nb\n" 1 none (some ⟨1, 2, " =\n  "⟩) none = some "a =\n  b" := by
    decide
  rw [plain] at same
  exact same

end LintAdapter.Suggestion
