import LintAdapter.Proofs.Suggestion.Window
import LintAdapter.Proofs.Text.ByteOffset

namespace LintAdapter.Suggestion

open Text

def Window.inBytes (source : List Char) (window : Window) : Window where
  first := byteOffset source window.first
  start := byteOffset source window.start
  stop := byteOffset source window.stop
  last := byteOffset source window.last

structure Window.OnBoundaries (source : String) (window : Window) : Prop where
  ordered : window.first ≤ window.start ∧ window.start ≤ window.stop ∧
    window.stop ≤ window.last ∧ window.last ≤ source.utf8ByteSize
  first : IsByteBoundary source window.first
  start : IsByteBoundary source window.start
  stop : IsByteBoundary source window.stop
  last : IsByteBoundary source window.last

namespace Bytes

def lineStart (source : String) (line : Nat) : Except Misstep (Option Nat) := do
  if line ≤ 1 then return some 0
  let index ← subtract line 2
  return (lineFeeds source.toList)[index]?.map (· + 1)

def startOfLine (source : String) (offset : Nat) : Except Misstep Nat := do
  let before ← cut source 0 offset
  return (lineFeeds before.toList).getLast?.elim 0 (· + 1)

def endOfLine (source : String) (offset : Nat) : Except Misstep Nat := do
  let after ← cut source offset source.utf8ByteSize
  return (lineFeeds after.toList).head?.elim source.utf8ByteSize (offset + ·)

def window (source : String) (line : Nat) (endLine : Option Nat) (fix : Fix) :
    Except Misstep (Option Window) := do
  if fix.stop < fix.start then return none
  let some start := unitByte source fix.start.toNat | return none
  let some stop := unitByte source fix.stop.toNat | return none
  let firstLine := max line 1
  let lastLine := max (endLine.getD firstLine) firstLine
  let some reportedStart ← lineStart source firstLine | return none
  let reportedEnd ← endOfLine source ((← lineStart source lastLine).getD source.utf8ByteSize)
  return some {
    first := min reportedStart (← startOfLine source start)
    start
    stop
    last := max reportedEnd (← endOfLine source stop) }

def applyFix (source : String) (window : Window) (replacement : String) :
    Except Misstep String := do
  let _room ← subtract window.last window.first
  let before ← cut source window.first window.start
  let after ← cut source window.stop window.last
  return before ++ replacement ++ after

def compute (source : String) (line : UInt64) (endLine : Option UInt64) (fix : Option Fix)
    (alternatives : Option (List Alternative)) : Except Misstep (Option String) := do
  let some fix := chosenFix? fix alternatives | return none
  let some window ← window source line.toNat (endLine.map UInt64.toNat) fix | return none
  let shown ← applyFix source window fix.text
  return String.ofList (dropFinalReturn (plainLineFeeds shown.toList))

end Bytes

theorem getElem?_lineFeeds (text : List Char) (count : Nat) :
    (lineFeeds text)[count]?.map (· + 1) =
      (afterLineFeeds text (count + 1)).map (byteOffset text) := by
  induction text generalizing count with
  | nil => rfl
  | cons c rest ih =>
      have shifted (count : Nat) : ((lineFeeds rest).map (c.utf8Size + ·))[count]?.map (· + 1) =
          ((afterLineFeeds rest (count + 1)).map (· + 1)).map (byteOffset (c :: rest)) := by
        have moved := congrArg (Option.map (c.utf8Size + ·)) (ih count)
        rw [Option.map_map, Option.map_map] at moved
        rw [List.getElem?_map, Option.map_map, Option.map_map]
        simpa only [Function.comp_def, byteOffset_succ, Nat.add_assoc] using moved
      rw [afterLineFeeds]
      by_cases newline : c = '\n'
      · subst newline
        rw [lineFeeds_newline, if_pos rfl]
        cases count with
        | zero =>
            have one : byteOffset ('\n' :: rest) 1 = 1 := byteCount_singleton '\n'
            simp [afterLineFeeds, one]
        | succ count => exact shifted count
      · rw [lineFeeds_cons newline, if_neg newline]
        exact shifted count

namespace Bytes

theorem lineStart_eq (source : String) (line : Nat) :
    lineStart source line =
      .ok ((lineStart? source.toList line).map (byteOffset source.toList)) := by
  rw [lineStart, lineStart?]
  split_ifs with first
  · rw [Nat.sub_eq_zero_of_le first, afterLineFeeds]
    rfl
  · obtain ⟨count, rfl⟩ := Nat.exists_eq_add_of_le' (Nat.lt_of_not_le first)
    rw [subtract_of_le (Nat.le_add_left _ _), Nat.add_sub_cancel,
      Nat.add_sub_cancel (count + 1) 1, ← getElem?_lineFeeds]
    rfl

theorem startOfLine_eq (source : String) {position : Nat}
    (inside : position ≤ source.toList.length) :
    startOfLine source (byteOffset source.toList position) =
      .ok (byteOffset source.toList (Suggestion.startOfLine source.toList position)) := by
  have start := getLast?_lineFeeds (source.toList.take position)
  rw [← beforeLine_lineAt, ← take_startOfLine inside] at start
  rw [startOfLine, cut_take]
  simp only [bind, Except.bind, String.toList_ofList, start]
  rfl

theorem endOfLine_eq (source : String) {position : Nat}
    (inside : position ≤ source.toList.length) :
    endOfLine source (byteOffset source.toList position) =
      .ok (byteOffset source.toList (Suggestion.endOfLine source.toList position)) := by
  have inLine := byteOffset_of_prefix
    (List.takeWhile_prefix (· ≠ '\n') (l := source.toList.drop position))
  rw [← head?_lineFeeds] at inLine
  rw [endOfLine, cut_drop source inside, Suggestion.endOfLine, byteOffset_add, inLine,
    ← byteCount_toList, ← byteOffset_add_byteCount_drop source.toList position]
  simp only [bind, Except.bind, pure, Except.pure, String.toList_ofList]
  cases (lineFeeds (source.toList.drop position)).head? <;> rfl

theorem isByteBoundary_lineStart (source : String) (line : Nat) :
    ∃ start, lineStart source line = .ok start ∧
      IsByteBoundary source (start.getD source.utf8ByteSize) := by
  refine ⟨_, lineStart_eq source line, ?_⟩
  rw [getD_map_byteOffset]
  exact isByteBoundary_byteOffset source _

theorem endOfLine_lineStart (source : String) (line : Nat) :
    endOfLine source (((lineStart? source.toList line).map
        (byteOffset source.toList)).getD source.utf8ByteSize) =
      .ok (byteOffset source.toList (Suggestion.endOfLine source.toList
        ((lineStart? source.toList line).getD source.toList.length))) := by
  rw [getD_map_byteOffset]
  exact endOfLine_eq source (lineStart?_getD_le_length source.toList line)

theorem window_eq (source : String) (line : Nat) (endLine : Option Nat) (fix : Fix) :
    window source line endLine fix =
      .ok ((window? source.toList line endLine fix).map (Window.inBytes source.toList)) := by
  rw [window, window?, unitByte_eq, unitByte_eq]
  split_ifs with inverted
  · rfl
  rcases atStart : unitPosition source.toList fix.start.toNat with _ | start
  · rfl
  rcases atStop : unitPosition source.toList fix.stop.toNat with _ | stop
  · rfl
  obtain ⟨startInside, -⟩ := (unitPosition_eq_some_iff _ _ _).1 atStart
  obtain ⟨stopInside, -⟩ := (unitPosition_eq_some_iff _ _ _).1 atStop
  simp only [lineStart_eq, endOfLine_lineStart, startOfLine_eq source startInside,
    endOfLine_eq source stopInside, Option.map_some, bind, Except.bind, Option.bind]
  cases lineStart? source.toList (max line 1) with
  | none => rfl
  | some reported =>
      have increases := byteOffset_mono source.toList
      simp only [Option.map_some, pure, Except.pure, Window.inBytes, increases.map_min,
        increases.map_max]

section

variable {source : String} {line : Nat} {endLine : Option Nat} {fix : Fix} {shown : Window}

theorem inBytes_onBoundaries (found : window? source.toList line endLine fix = some shown) :
    (shown.inBytes source.toList).OnBoundaries source := by
  obtain ⟨firstLe, startLe, stopLe⟩ := window_ordered found
  have increases := byteOffset_mono source.toList
  have boundary := isByteBoundary_byteOffset source
  exact ⟨⟨increases firstLe, increases startLe, increases stopLe,
    (boundary shown.last).le_utf8ByteSize⟩, boundary _, boundary _, boundary _, boundary _⟩

theorem applyFix_inBytes (found : window? source.toList line endLine fix = some shown)
    (replacement : String) :
    applyFix source (shown.inBytes source.toList) replacement =
      .ok (String.ofList (shown.applyFix source.toList replacement.toList)) := by
  obtain ⟨firstLe, startLe, stopLe⟩ := window_ordered found
  have room := byteOffset_mono source.toList (firstLe.trans (startLe.trans stopLe))
  simp only [applyFix, Window.inBytes, subtract_of_le room, cut_byteOffset source firstLe,
    cut_byteOffset source stopLe, bind, Except.bind, pure, Except.pure, Window.applyFix,
    String.ofList_append, String.ofList_toList]

end

theorem compute_eq (source : String) (line : UInt64) (endLine : Option UInt64) (fix : Option Fix)
    (alternatives : Option (List Alternative)) :
    compute source line endLine fix alternatives =
      .ok (Suggestion.compute source line endLine fix alternatives) := by
  rw [compute, Suggestion.compute]
  rcases chosenFix? fix alternatives with _ | chosen
  · rfl
  simp only [window_eq, bind, Except.bind, Option.bind]
  cases found : window? source.toList line.toNat (endLine.map UInt64.toNat) chosen with
  | none => rfl
  | some shown =>
      simp only [Option.map_some, applyFix_inBytes found, String.toList_ofList]
      rfl

/-- The computation on bytes never breaks off. Every line starts on a boundary, or else the end of
the source stands for its start, and a window that is reached has its offsets in order on
boundaries. -/
theorem compute_never_missteps (source : String) (line : UInt64) (endLine : Option UInt64)
    (fix : Option Fix) (alternatives : Option (List Alternative)) :
    compute source line endLine fix alternatives =
      .ok (Suggestion.compute source line endLine fix alternatives) ∧
    (∀ number, ∃ start, lineStart source number = .ok start ∧
      IsByteBoundary source (start.getD source.utf8ByteSize)) ∧
    ∀ chosen, ∃ shown, window source line.toNat (endLine.map UInt64.toNat) chosen = .ok shown ∧
      ∀ reached ∈ shown, reached.OnBoundaries source := by
  refine ⟨compute_eq source line endLine fix alternatives, isByteBoundary_lineStart source,
    fun chosen => ⟨_, window_eq source _ _ chosen, fun reached member => ?_⟩⟩
  obtain ⟨shown, found, rfl⟩ := Option.map_eq_some_iff.1 member
  exact inBytes_onBoundaries found

theorem compute_behind_wide_characters :
    compute "é\n😀x\r\n" 2 (some 7) (some ⟨4, 5, "ß"⟩) none = .ok (some "😀ß\n") ∧
    window "é\n😀x\r\n" 2 (some 7) ⟨4, 5, "ß"⟩ = .ok (some ⟨3, 7, 8, 10⟩) ∧
    (⟨3, 7, 8, 10⟩ : Window).OnBoundaries "é\n😀x\r\n" := by
  obtain ⟨runs, -, reaches⟩ := compute_never_missteps "é\n😀x\r\n" 2 (some 7)
    (some ⟨4, 5, "ß"⟩) none
  obtain ⟨shown, found, bounded⟩ := reaches ⟨4, 5, "ß"⟩
  have suggested : Suggestion.compute "é\n😀x\r\n" 2 (some 7) (some ⟨4, 5, "ß"⟩) none =
      some "😀ß\n" := by
    decide
  have reached : window "é\n😀x\r\n" 2 (some 7) ⟨4, 5, "ß"⟩ = .ok (some ⟨3, 7, 8, 10⟩) := by
    rw [window_eq]
    rfl
  rw [suggested] at runs
  cases found.symm.trans reached
  exact ⟨runs, reached, bounded _ rfl⟩

end Bytes

end LintAdapter.Suggestion
