import LintAdapter.Proofs.Suggestion.Lines
import LintAdapter.Proofs.Text.Utf16

namespace LintAdapter.Suggestion

open Text (utf16 splice IsBoundary unitPosition)

inductive Offers : Option Fix → Option (List Alternative) → Fix → Prop
  | own (chosen : Fix) (alternatives : Option (List Alternative)) :
      Offers (some chosen) alternatives chosen
  | first (alternative : Alternative) (rest : List Alternative) :
      Offers none (some (alternative :: rest)) alternative.fix

/-- Whether a fix can be applied to a source and shown for a line. -/
structure Fits (source : List Char) (line : Nat) (fix : Fix) : Prop where
  ordered : fix.start ≤ fix.stop
  start : IsBoundary (utf16 source) fix.start.toNat
  stop : IsBoundary (utf16 source) fix.stop.toNat
  line : max line 1 ≤ source.count '\n' + 1

def lineAtOffset (source : List Char) (offset : Nat) : Nat :=
  ((utf16 source).take offset).count 0x0a + 1

def firstShown (source : List Char) (line : Nat) (fix : Fix) : Nat :=
  min (max line 1) (lineAtOffset source fix.start.toNat)

def lastReported (line : Nat) (endLine : Option Nat) : Nat := max (endLine.getD line) (max line 1)

/-- The last line shown: the last reported one that there is, or the line where the fix stops if
that is later. -/
def lastShown (source : List Char) (line : Nat) (endLine : Option Nat) (fix : Fix) : Nat :=
  max (min (lastReported line endLine) (source.count '\n' + 1))
    (lineAtOffset source fix.stop.toNat)

/-- A text that reads, in the place of the shown lines, like the source with the fix applied. -/
def Rewrites (source : List Char) (line : Nat) (endLine : Option Nat) (fix : Fix)
    (shown : List Char) : Prop :=
  utf16 (beforeLine source (firstShown source line fix) ++ shown ++
      afterLine source (lastShown source line endLine fix)) =
    splice (utf16 source) fix.start.toNat fix.stop.toNat (utf16 fix.text.toList)

theorem chosenFix?_eq_some_iff (fix : Option Fix) (alternatives : Option (List Alternative))
    (chosen : Fix) :
    chosenFix? fix alternatives = some chosen ↔ Offers fix alternatives chosen := by
  constructor
  · intro found
    cases fix with
    | some own =>
        cases found
        exact .own chosen alternatives
    | none =>
        match alternatives, found with
        | some (alternative :: rest), found =>
            cases found
            exact .first alternative rest
  · rintro (_ | _) <;> rfl

theorem window?_eq_some_iff (source : List Char) (line : Nat) (endLine : Option Nat) (fix : Fix)
    (window : Window) :
    window? source line endLine fix = some window ↔
      fix.start ≤ fix.stop ∧ unitPosition source fix.start.toNat = some window.start ∧
      unitPosition source fix.stop.toNat = some window.stop ∧
      ∃ reported, lineStart? source (max line 1) = some reported ∧
        window.first = min reported (startOfLine source window.start) ∧
        window.last = max (endOfLine source ((lineStart? source
          (lastReported line endLine)).getD source.length)) (endOfLine source window.stop) := by
  have last : max (endLine.getD (max line 1)) (max line 1) = lastReported line endLine := by
    cases endLine with
    | none => simp only [lastReported, Option.getD_none]; omega
    | some _ => rfl
  unfold window?
  by_cases ordered : fix.start ≤ fix.stop
  · have sorted : ¬ fix.stop < fix.start := UInt64.not_lt.2 ordered
    simp only [sorted, ordered, last, if_false, true_and, bind, Option.bind_eq_some_iff, pure,
      Option.some.injEq]
    constructor
    · rintro ⟨start, atStart, stop, atStop, reported, atReported, rfl⟩
      exact ⟨atStart, atStop, reported, atReported, rfl, rfl⟩
    · rintro ⟨atStart, atStop, reported, atReported, first, last⟩
      refine ⟨_, atStart, _, atStop, reported, atReported, ?_⟩
      rw [← first, ← last]
  · have inverted : fix.stop < fix.start := UInt64.not_le.1 ordered
    simp [inverted, ordered]

theorem exists_window_iff (source : List Char) (line : Nat) (endLine : Option Nat) (fix : Fix) :
    (∃ window, window? source line endLine fix = some window) ↔ Fits source line fix := by
  have inside : max line 1 ≤ source.count '\n' + 1 ↔ (lineStart? source (max line 1)).isSome := by
    rw [lineStart?, afterLineFeeds_isSome_iff, length_lines]
    omega
  constructor
  · rintro ⟨window, found⟩
    obtain ⟨ordered, atStart, atStop, reported, atReported, -⟩ :=
      (window?_eq_some_iff source line endLine fix window).1 found
    refine ⟨ordered, ?_, ?_, ?_⟩
    · rw [← Text.unitPosition_isSome_iff, atStart, Option.isSome_some]
    · rw [← Text.unitPosition_isSome_iff, atStop, Option.isSome_some]
    · rw [inside, atReported, Option.isSome_some]
  · rintro ⟨ordered, start, stop, within⟩
    rw [← Text.unitPosition_isSome_iff, Option.isSome_iff_exists] at start stop
    rw [inside, Option.isSome_iff_exists] at within
    obtain ⟨first, atStart⟩ := start
    obtain ⟨last, atStop⟩ := stop
    obtain ⟨reported, atReported⟩ := within
    let reportedEnd := (lineStart? source (lastReported line endLine)).getD source.length
    exact ⟨⟨min reported (startOfLine source first), first, last,
      max (endOfLine source reportedEnd) (endOfLine source last)⟩,
      (window?_eq_some_iff source line endLine fix _).2
        ⟨ordered, atStart, atStop, reported, atReported, rfl, rfl⟩⟩

theorem lineAtOffset_eq {source : List Char} {offset position : Nat}
    (found : unitPosition source offset = some position) :
    lineAtOffset source offset = lineAt source position := by
  rw [lineAtOffset, lineAt, Text.take_utf16 found, Text.count_utf16]

theorem take_min_beforeLine {source : List Char} {first second : Nat} {firstLine secondLine : Nat}
    (firstInside : first ≤ source.length) (secondInside : second ≤ source.length)
    (atFirst : source.take first = beforeLine source firstLine)
    (atSecond : source.take second = beforeLine source secondLine) :
    source.take (min first second) = beforeLine source (min firstLine secondLine) := by
  have firstLength := congrArg List.length atFirst
  have secondLength := congrArg List.length atSecond
  rw [List.length_take_of_le firstInside] at firstLength
  rw [List.length_take_of_le secondInside] at secondLength
  rcases Nat.le_total firstLine secondLine with le | le
  · have := length_beforeLine_mono source le
    rw [min_eq_left le, min_eq_left (by omega), atFirst]
  · have := length_beforeLine_mono source le
    rw [min_eq_right le, min_eq_right (by omega), atSecond]

theorem drop_max_afterLine {source : List Char} {first second : Nat} {firstLine secondLine : Nat}
    (firstInside : first ≤ source.length) (secondInside : second ≤ source.length)
    (atFirst : source.drop first = afterLine source firstLine)
    (atSecond : source.drop second = afterLine source secondLine) :
    source.drop (max first second) = afterLine source (max firstLine secondLine) := by
  have firstLength := congrArg List.length atFirst
  have secondLength := congrArg List.length atSecond
  rw [List.length_drop] at firstLength secondLength
  rcases Nat.le_total firstLine secondLine with le | le
  · have := length_afterLine_anti source le
    rw [max_eq_right le, max_eq_right (by omega), atSecond]
  · have := length_afterLine_anti source le
    rw [max_eq_left le, max_eq_left (by omega), atFirst]

theorem lineAt_lineStart? (source : List Char) {line : Nat} (pos : 0 < line) :
    lineAt source ((lineStart? source line).getD source.length) =
      min line (source.count '\n' + 1) := by
  cases found : lineStart? source line with
  | none =>
      have missing : ¬ line - 1 < (lines source).length := by
        rw [← afterLineFeeds_isSome_iff, ← lineStart?, found]
        exact Bool.false_ne_true
      rw [length_lines] at missing
      rw [Option.getD_none, lineAt, List.take_length]
      omega
  | some position =>
      have present : line - 1 < (lines source).length := by
        rw [← afterLineFeeds_isSome_iff, ← lineStart?, found, Option.isSome_some]
      rw [length_lines] at present
      obtain ⟨-, number, -⟩ := afterLineFeeds_eq_some found
      rw [Option.getD_some, number]
      omega

section

variable {source : List Char} {line : Nat} {endLine : Option Nat} {fix : Fix} {window : Window}

theorem take_window_first (found : window? source line endLine fix = some window) :
    source.take window.first = beforeLine source (firstShown source line fix) := by
  obtain ⟨-, atStart, -, reported, atReported, first, -⟩ :=
    (window?_eq_some_iff source line endLine fix window).1 found
  obtain ⟨startInside, -⟩ := (Text.unitPosition_eq_some_iff _ _ _).1 atStart
  obtain ⟨reportedInside, -, atLine⟩ := afterLineFeeds_eq_some atReported
  rw [Nat.sub_add_cancel (Nat.le_max_right line 1)] at atLine
  rw [first, firstShown, lineAtOffset_eq atStart]
  refine take_min_beforeLine reportedInside ?_ atLine (take_startOfLine startInside)
  exact (Nat.sub_le _ _).trans startInside

theorem endOfLine_le_length {position : Nat} (inside : position ≤ source.length) :
    endOfLine source position ≤ source.length := by
  have := (List.takeWhile_prefix (· ≠ '\n') (l := source.drop position)).length_le
  rw [List.length_drop] at this
  rw [endOfLine]
  omega

theorem lineStart?_getD_le_length (source : List Char) (line : Nat) :
    (lineStart? source line).getD source.length ≤ source.length := by
  cases found : lineStart? source line with
  | none => exact le_rfl
  | some position => exact (afterLineFeeds_eq_some found).1

theorem drop_window_last (found : window? source line endLine fix = some window) :
    source.drop window.last = afterLine source (lastShown source line endLine fix) := by
  obtain ⟨-, -, atStop, -, -, -, last⟩ :=
    (window?_eq_some_iff source line endLine fix window).1 found
  obtain ⟨stopInside, -⟩ := (Text.unitPosition_eq_some_iff _ _ _).1 atStop
  have pos : 0 < lastReported line endLine := by
    rw [lastReported]
    omega
  rw [last, lastShown, lineAtOffset_eq atStop, ← lineAt_lineStart? source pos]
  exact drop_max_afterLine (endOfLine_le_length (lineStart?_getD_le_length source _))
    (endOfLine_le_length stopInside) (drop_endOfLine source _) (drop_endOfLine source _)

theorem window_ordered (found : window? source line endLine fix = some window) :
    window.first ≤ window.start ∧ window.start ≤ window.stop ∧ window.stop ≤ window.last := by
  obtain ⟨ordered, atStart, atStop, reported, -, first, last⟩ :=
    (window?_eq_some_iff source line endLine fix window).1 found
  refine ⟨?_, Text.unitPosition_mono (UInt64.le_iff_toNat_le.1 ordered) atStart atStop, ?_⟩
  · rw [first]
    exact (Nat.min_le_right _ _).trans (Nat.sub_le _ _)
  · rw [last]
    exact (Nat.le_add_right _ _).trans (Nat.le_max_right _ _)

theorem take_window_start (found : window? source line endLine fix = some window) :
    source.take window.first ++ (source.take window.start).drop window.first =
      source.take window.start := by
  obtain ⟨firstLe, -, -⟩ := window_ordered found
  conv_rhs => rw [← List.take_append_drop window.first (source.take window.start)]
  rw [List.take_take, min_eq_left firstLe]

theorem drop_window_stop (found : window? source line endLine fix = some window) :
    (source.take window.last).drop window.stop ++ source.drop window.last =
      source.drop window.stop := by
  obtain ⟨-, -, stopLe⟩ := window_ordered found
  conv_rhs => rw [← List.take_append_drop (window.last - window.stop) (source.drop window.stop)]
  rw [List.drop_take, List.drop_drop, Nat.add_sub_cancel' stopLe]

theorem applyFix_in_source (found : window? source line endLine fix = some window)
    (replacement : List Char) :
    source.take window.first ++ window.applyFix source replacement ++ source.drop window.last =
      source.take window.start ++ replacement ++ source.drop window.stop := by
  rw [Window.applyFix]
  calc
    _ = (source.take window.first ++ (source.take window.start).drop window.first) ++ replacement ++
        ((source.take window.last).drop window.stop ++ source.drop window.last) := by
      simp only [List.append_assoc]
    _ = _ := by rw [take_window_start found, drop_window_stop found]

theorem rewrites_iff (found : window? source line endLine fix = some window) (shown : List Char) :
    Rewrites source line endLine fix shown ↔ shown = window.applyFix source fix.text.toList := by
  obtain ⟨-, atStart, atStop, -⟩ := (window?_eq_some_iff source line endLine fix window).1 found
  rw [Rewrites, Text.splice_utf16 atStart atStop, ← applyFix_in_source found,
    ← take_window_first found, ← drop_window_last found]
  constructor
  · intro equal
    exact List.append_cancel_left (List.append_cancel_right (Text.utf16_injective equal))
  · rintro rfl
    rfl

end

theorem compute_eq_some_iff (source : String) (line : UInt64) (endLine : Option UInt64)
    (fix : Option Fix) (alternatives : Option (List Alternative)) (text : String) :
    compute source line endLine fix alternatives = some text ↔
      ∃ chosen, Offers fix alternatives chosen ∧ ∃ window,
        window? source.toList line.toNat (endLine.map UInt64.toNat) chosen = some window ∧
        text = String.ofList (dropFinalReturn (plainLineFeeds
          (window.applyFix source.toList chosen.text.toList))) := by
  simp only [compute, bind, Option.bind_eq_some_iff, pure, Option.some.injEq,
    chosenFix?_eq_some_iff, eq_comm (a := text)]

/-- There is a suggestion exactly for a fix that fits, and it is the shown lines as they read in the
source after the fix, with plain line feeds and without a carriage return at the end. -/
theorem compute_shows_rewritten_lines (source : String) (line : UInt64) (endLine : Option UInt64)
    (fix : Option Fix) (alternatives : Option (List Alternative)) :
    ((compute source line endLine fix alternatives).isSome ↔
      ∃ chosen, Offers fix alternatives chosen ∧ Fits source.toList line.toNat chosen) ∧
    ∀ text, compute source line endLine fix alternatives = some text ↔
      ∃ chosen, Offers fix alternatives chosen ∧ Fits source.toList line.toNat chosen ∧
        ∃ shown, Rewrites source.toList line.toNat (endLine.map UInt64.toNat) chosen shown ∧
          text = String.ofList (dropFinalReturn (plainLineFeeds shown)) := by
  constructor
  · simp only [Option.isSome_iff_exists, compute_eq_some_iff]
    constructor
    · rintro ⟨text, chosen, offered, window, atWindow, -⟩
      exact ⟨chosen, offered, (exists_window_iff _ _ _ _).1 ⟨window, atWindow⟩⟩
    · rintro ⟨chosen, offered, fits⟩
      obtain ⟨window, atWindow⟩ := (exists_window_iff _ _ _ _).2 fits
      exact ⟨_, chosen, offered, window, atWindow, rfl⟩
  · intro text
    rw [compute_eq_some_iff]
    constructor
    · rintro ⟨chosen, offered, window, atWindow, rfl⟩
      exact ⟨chosen, offered, (exists_window_iff _ _ _ _).1 ⟨window, atWindow⟩, _,
        (rewrites_iff atWindow _).2 rfl, rfl⟩
    · rintro ⟨chosen, offered, fits, shown, rewrites, rfl⟩
      obtain ⟨window, atWindow⟩ := (exists_window_iff _ _ _ _).2 fits
      rw [(rewrites_iff atWindow shown).1 rewrites]
      exact ⟨chosen, offered, window, atWindow, rfl⟩

end LintAdapter.Suggestion
