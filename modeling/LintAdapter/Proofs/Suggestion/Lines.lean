import LintAdapter.Suggestion
import Mathlib.Data.List.DropRight

namespace LintAdapter.Suggestion

def lines (source : List Char) : List (List Char) := source.splitOn '\n'

def beforeLine (source : List Char) (line : Nat) : List Char :=
  ((lines source).take (line - 1)).flatMap (· ++ ['\n'])

def afterLine (source : List Char) (line : Nat) : List Char :=
  ((lines source).drop line).flatMap ('\n' :: ·)

def lineAt (source : List Char) (position : Nat) : Nat := (source.take position).count '\n' + 1

theorem lines_nil : lines [] = [[]] := List.splitOn_nil '\n'

theorem lines_newline (rest : List Char) : lines ('\n' :: rest) = [] :: lines rest := by
  simp [lines, List.splitOn_cons_eq_if_modifyHead]

theorem lines_cons {c : Char} (other : c ≠ '\n') (rest : List Char) :
    lines (c :: rest) = (lines rest).modifyHead (c :: ·) := by
  simp [lines, List.splitOn_cons_eq_if_modifyHead, other]

theorem lines_eq_cons (source : List Char) : ∃ first others, lines source = first :: others :=
  List.exists_cons_of_ne_nil (List.splitOn_ne_nil '\n' source)

theorem lines_eq_concat (source : List Char) : ∃ done part, lines source = done ++ [part] :=
  ⟨_, _, (List.dropLast_append_getLast (List.splitOn_ne_nil '\n' source)).symm⟩

theorem length_lines (source : List Char) : (lines source).length = source.count '\n' + 1 := by
  induction source with
  | nil => simp [lines_nil]
  | cons c rest ih =>
      by_cases newline : c = '\n'
      · subst newline
        rw [lines_newline, List.length_cons, ih, List.count_cons_self]
      · rw [lines_cons newline, List.length_modifyHead, ih, List.count_cons_of_ne newline]

theorem flatMap_cons_lines (source : List Char) :
    (lines source).flatMap ('\n' :: ·) = '\n' :: source := by
  induction source with
  | nil => simp [lines_nil]
  | cons c rest ih =>
      by_cases newline : c = '\n'
      · subst newline
        rw [lines_newline, List.flatMap_cons, ih]
        rfl
      · obtain ⟨first, others, split⟩ := lines_eq_cons rest
        rw [split, List.flatMap_cons, List.cons_append, List.cons.injEq] at ih
        rw [lines_cons newline, split, List.modifyHead_cons, List.flatMap_cons, List.cons_append,
          List.cons_append, ih.2]

theorem flatMap_concat_lines (source : List Char) :
    (lines source).flatMap (· ++ ['\n']) = source ++ ['\n'] := by
  induction source with
  | nil => simp [lines_nil]
  | cons c rest ih =>
      by_cases newline : c = '\n'
      · subst newline
        rw [lines_newline, List.flatMap_cons, ih]
        rfl
      · obtain ⟨first, others, split⟩ := lines_eq_cons rest
        rw [split, List.flatMap_cons] at ih
        rw [lines_cons newline, split, List.modifyHead_cons, List.flatMap_cons, List.cons_append,
          List.cons_append, ih, List.cons_append]

/-- Where two texts meet, the last line of one and the first line of the other become one line. -/
theorem lines_append {before after part first : List Char} {done later : List (List Char)}
    (splitBefore : lines before = done ++ [part]) (splitAfter : lines after = first :: later) :
    lines (before ++ after) = done ++ (part ++ first) :: later := by
  induction before generalizing done part with
  | nil =>
      rw [lines_nil] at splitBefore
      obtain ⟨rfl, rfl⟩ : done = [] ∧ part = [] := by
        cases done <;> simp_all
      simpa using splitAfter
  | cons c rest ih =>
      obtain ⟨others, final, split⟩ := lines_eq_concat rest
      have joined := ih split
      by_cases newline : c = '\n'
      · subst newline
        rw [lines_newline, split, ← List.cons_append] at splitBefore
        obtain ⟨rfl, rfl⟩ := List.append_singleton_inj.1 splitBefore
        rw [List.cons_append, lines_newline, joined, List.cons_append]
      · rw [lines_cons newline, split] at splitBefore
        rw [List.cons_append, lines_cons newline, joined]
        cases others with
        | nil =>
            obtain ⟨rfl, rfl⟩ : done = [] ∧ part = c :: final := by
              cases done <;> simp_all
            rfl
        | cons head tail =>
            rw [List.cons_append, List.modifyHead_cons, ← List.cons_append] at splitBefore
            obtain ⟨rfl, rfl⟩ := List.append_singleton_inj.1 splitBefore
            rfl

/-- The line of a position is cut in two there; its parts end the text before and begin the text
after the position. -/
theorem lines_at (source : List Char) (position : Nat) :
    ∃ done part first later, lines (source.take position) = done ++ [part] ∧
      lines (source.drop position) = first :: later ∧
      lines source = done ++ (part ++ first) :: later ∧
      lineAt source position = done.length + 1 := by
  obtain ⟨done, part, splitBefore⟩ := lines_eq_concat (source.take position)
  obtain ⟨first, later, splitAfter⟩ := lines_eq_cons (source.drop position)
  have whole := lines_append splitBefore splitAfter
  rw [List.take_append_drop] at whole
  have count := length_lines (source.take position)
  rw [splitBefore, List.length_append, List.length_singleton] at count
  exact ⟨done, part, first, later, splitBefore, splitAfter, whole, count.symm⟩

theorem flatMap_dropLast_lines (source : List Char) :
    (lines source).dropLast.flatMap (· ++ ['\n']) = source.rdropWhile (· ≠ '\n') := by
  induction source using List.reverseRecOn with
  | nil => simp [lines_nil]
  | append_singleton rest c ih =>
      obtain ⟨done, part, split⟩ := lines_eq_concat rest
      by_cases newline : c = '\n'
      · subst newline
        have splitLast : lines ['\n'] = [] :: [[]] := by rw [lines_newline, lines_nil]
        rw [lines_append split splitLast, List.append_nil, List.append_cons, List.dropLast_concat,
          ← split, flatMap_concat_lines, List.rdropWhile_concat_neg _ _ _ (by simp)]
      · have splitLast : lines [c] = [c] :: [] := by
          rw [lines_cons newline, lines_nil, List.modifyHead_cons]
        rw [split, List.dropLast_concat] at ih
        rw [lines_append split splitLast, List.dropLast_concat, ih,
          List.rdropWhile_concat_pos _ _ _ (by simpa using newline)]

theorem flatMap_tail_lines (source : List Char) :
    (lines source).tail.flatMap ('\n' :: ·) = source.dropWhile (· ≠ '\n') := by
  induction source with
  | nil => simp [lines_nil]
  | cons c rest ih =>
      by_cases newline : c = '\n'
      · subst newline
        rw [lines_newline, List.tail_cons, flatMap_cons_lines]
        simp
      · rw [lines_cons newline, List.tail_modifyHead, ih]
        simp [newline]

theorem beforeLine_lineAt (source : List Char) (position : Nat) :
    beforeLine source (lineAt source position) =
      (source.take position).rdropWhile (· ≠ '\n') := by
  obtain ⟨done, part, first, later, splitBefore, -, whole, number⟩ := lines_at source position
  rw [← flatMap_dropLast_lines, splitBefore, List.dropLast_concat, beforeLine, number,
    Nat.add_sub_cancel, whole, List.take_left]

theorem afterLine_lineAt (source : List Char) (position : Nat) :
    afterLine source (lineAt source position) = (source.drop position).dropWhile (· ≠ '\n') := by
  obtain ⟨done, part, first, later, -, splitAfter, whole, number⟩ := lines_at source position
  rw [← flatMap_tail_lines, splitAfter, List.tail_cons, afterLine, number, whole,
    List.append_cons, List.drop_left' (by simp)]

theorem length_beforeLine_mono (source : List Char) {first second : Nat} (le : first ≤ second) :
    (beforeLine source first).length ≤ (beforeLine source second).length := by
  obtain ⟨more, rfl⟩ := Nat.exists_eq_add_of_le le
  cases first with
  | zero => simp [beforeLine]
  | succ first =>
      rw [beforeLine, beforeLine, Nat.add_sub_cancel, Nat.add_right_comm, Nat.add_sub_cancel,
        List.take_add, List.flatMap_append, List.length_append]
      omega

theorem length_afterLine_anti (source : List Char) {first second : Nat} (le : first ≤ second) :
    (afterLine source second).length ≤ (afterLine source first).length := by
  obtain ⟨more, rfl⟩ := Nat.exists_eq_add_of_le le
  rw [afterLine, afterLine, ← List.drop_drop]
  conv_rhs => rw [← List.take_append_drop more ((lines source).drop first), List.flatMap_append]
  rw [List.length_append]
  omega

theorem beforeLine_newline (rest : List Char) (count : Nat) :
    beforeLine ('\n' :: rest) (count + 2) = '\n' :: beforeLine rest (count + 1) := by
  rw [beforeLine, lines_newline, Nat.add_sub_cancel (count + 1) 1, List.take_succ_cons,
    List.flatMap_cons]
  rfl

theorem beforeLine_cons {c : Char} (other : c ≠ '\n') (rest : List Char) (count : Nat) :
    beforeLine (c :: rest) (count + 2) = c :: beforeLine rest (count + 2) := by
  obtain ⟨first, others, split⟩ := lines_eq_cons rest
  rw [beforeLine, beforeLine, lines_cons other, split, Nat.add_sub_cancel (count + 1) 1,
    List.modifyHead_cons, List.take_succ_cons, List.take_succ_cons, List.flatMap_cons,
    List.flatMap_cons]
  rfl

theorem afterLineFeeds_eq_some {source : List Char} {count position : Nat}
    (found : afterLineFeeds source count = some position) :
    position ≤ source.length ∧ lineAt source position = count + 1 ∧
      source.take position = beforeLine source (count + 1) := by
  fun_induction afterLineFeeds source count generalizing position with
  | case1 source =>
      cases found
      simp [lineAt, beforeLine]
  | case2 => cases found
  | case3 c rest count ih =>
      obtain ⟨before, foundRest, rfl⟩ := Option.map_eq_some_iff.1 found
      obtain ⟨inside, number, start⟩ := ih foundRest
      rw [lineAt, Nat.add_right_cancel_iff] at number
      rw [lineAt, List.length_cons, List.take_succ_cons]
      by_cases newline : c = '\n'
      · subst newline
        rw [if_pos rfl] at number start
        rw [List.count_cons_self, number, start, beforeLine_newline]
        exact ⟨by omega, rfl, rfl⟩
      · rw [if_neg newline] at number start
        rw [List.count_cons_of_ne newline, number, start, beforeLine_cons newline]
        exact ⟨by omega, rfl, rfl⟩

theorem afterLineFeeds_isSome_iff (source : List Char) (count : Nat) :
    (afterLineFeeds source count).isSome ↔ count < (lines source).length := by
  rw [length_lines]
  fun_induction afterLineFeeds source count with
  | case1 => simp
  | case2 => simp
  | case3 c rest count ih =>
      rw [Option.isSome_map, ih]
      by_cases newline : c = '\n'
      · subst newline
        rw [if_pos rfl, List.count_cons_self]
        omega
      · rw [if_neg newline, List.count_cons_of_ne newline]

theorem take_startOfLine {source : List Char} {position : Nat} (inside : position ≤ source.length) :
    source.take (startOfLine source position) = beforeLine source (lineAt source position) := by
  have split := List.rdropWhile_append_rtakeWhile (p := (· ≠ '\n')) (l := source.take position)
  have lengths := congrArg List.length split
  rw [List.length_append, List.length_take_of_le inside] at lengths
  have start : startOfLine source position =
      ((source.take position).rdropWhile (· ≠ '\n')).length := by
    rw [List.rtakeWhile, List.length_reverse] at lengths
    rw [startOfLine]
    omega
  rw [beforeLine_lineAt, start]
  have prefixes := (List.rdropWhile_prefix (· ≠ '\n') (source.take position)).trans
    (List.take_prefix position source)
  exact (List.prefix_iff_eq_take.1 prefixes).symm

theorem drop_endOfLine (source : List Char) (position : Nat) :
    source.drop (endOfLine source position) = afterLine source (lineAt source position) := by
  have split := List.takeWhile_append_dropWhile (p := (· ≠ '\n')) (l := source.drop position)
  rw [afterLine_lineAt, endOfLine, ← List.drop_drop]
  exact (congrArg (List.drop _) split.symm).trans List.drop_left

end LintAdapter.Suggestion
