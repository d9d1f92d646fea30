import LintAdapter.Proofs.Conversion.Findings
import LintAdapter.Proofs.Diagnostics
import LintAdapter.Proofs.Suggestion.Window

namespace LintAdapter

open Suggestion (Offers)

namespace Suggestion

/-- The text is what the lines shown for a message become by the fix. They are lines of the source,
and the one of a number is among them. -/
structure ShowsLine (source : List Char) (line : Nat) (endLine : Option Nat) (fix : Fix)
    (text : List Char) (number : Nat) : Prop where
  first_le : firstShown source line fix ≤ number
  le_last : number ≤ lastShown source line endLine fix
  inSource : lastShown source line endLine fix ≤ (lines source).length
  rewritten : ∃ shown, Rewrites source line endLine fix shown ∧
    text = dropFinalReturn (plainLineFeeds shown)

theorem lineAtOffset_le_length_lines (source : List Char) (offset : Nat) :
    lineAtOffset source offset ≤ (lines source).length := by
  rw [lineAtOffset, length_lines, ← Text.count_utf16]
  exact Nat.add_le_add_right ((List.take_sublist offset _).count_le 0x0a) 1

theorem compute_showsLine {source : String} {line : UInt64} {endLine : Option UInt64}
    {fix : Option Fix} {alternatives : Option (List Alternative)} {text : String}
    (suggested : compute source line endLine fix alternatives = some text) :
    ∃ chosen, Offers fix alternatives chosen ∧
      ShowsLine source.toList line.toNat (endLine.map UInt64.toNat) chosen text.toList
        (max line.toNat 1) := by
  obtain ⟨chosen, offered, window, found, rfl⟩ := (compute_eq_some_iff _ _ _ _ _ _).1 suggested
  obtain ⟨-, -, -, inSource⟩ := (exists_window_iff _ _ _ _).1 ⟨window, found⟩
  refine ⟨chosen, offered, Nat.min_le_left _ _, ?_, ?_, _, (rewrites_iff found _).2 rfl, ?_⟩
  · have reported : max line.toNat 1 ≤ lastReported line.toNat (endLine.map UInt64.toNat) :=
      Nat.le_max_right _ _
    exact (Nat.le_min.2 ⟨reported, inSource⟩).trans (Nat.le_max_left _ _)
  · rw [lastShown, ← length_lines]
    exact Nat.max_le.2 ⟨Nat.min_le_right _ _, lineAtOffset_le_length_lines _ _⟩
  · rw [String.toList_ofList]

end Suggestion

def Issue.Shows (batch : Batch) (message : Message) (issue : Issue) (number : Nat) : Prop :=
  ∀ text, issue.suggestion = some text → ∃ source chosen, batch.source = some source ∧
    Offers message.fix message.alternatives chosen ∧
    Suggestion.ShowsLine source.toList issue.line.toNat (message.endLine.map UInt64.toNat) chosen
      text.toList number

structure Issue.LineIsReal (batch : Batch) (message : Message) (issue : Issue) : Prop where
  pos : 1 ≤ issue.line
  shown : issue.Shows batch message issue.line.toNat

namespace Issue.Reports

variable {settings : Settings} {batch : Batch} {message : Message} {issue : Issue}
  (reports : issue.Reports settings batch message)

include reports

theorem shows : issue.Shows batch message (max issue.line.toNat 1) := by
  intro text suggested
  cases on : settings.suggestions with
  | false =>
      rw [reports.unsuggested (.inl on)] at suggested
      cases suggested
  | true =>
      cases given : batch.source with
      | none =>
          rw [reports.unsuggested (.inr given)] at suggested
          cases suggested
      | some source =>
          rw [reports.suggested on source given] at suggested
          obtain ⟨chosen, offered, shows⟩ := Suggestion.compute_showsLine suggested
          exact ⟨source, chosen, rfl, offered, shows⟩

theorem one_le_line_iff : 1 ≤ issue.line ↔ message.line ≠ some 0 := by
  have pos : 1 ≤ issue.line ↔ issue.line ≠ 0 := by
    rw [UInt64.le_iff_toNat_le, ne_eq, ← UInt64.toNat_inj]
    exact Nat.one_le_iff_ne_zero
  rw [pos]
  rcases reports.line with given | ⟨missing, first⟩
  · rw [given, ne_eq, ne_eq, Option.some.injEq]
  · rw [missing, first]
    decide

theorem lineIsReal_iff : issue.LineIsReal batch message ↔ message.line ≠ some 0 := by
  rw [← reports.one_le_line_iff]
  constructor
  · exact LineIsReal.pos
  · intro pos
    -- The suggestion shows line one in the place of zero, and else the line reported.
    have same : max issue.line.toNat 1 = issue.line.toNat :=
      Nat.max_eq_left (UInt64.le_iff_toNat_le.1 pos)
    exact ⟨pos, same ▸ reports.shows⟩

end Issue.Reports

namespace Finding

theorem issue_mem_ofBatches_iff (settings : Settings) (batches : List Batch) (issue : Issue) :
    .issue issue ∈ ofBatches settings.suggestions batches ↔
      ∃ batch ∈ batches, batch.fatalCount = 0 ∧ ∃ message ∈ batch.messages,
        issue.Reports settings batch message := by
  rw [ofBatches, List.mem_flatMap]
  refine exists_congr fun batch => and_congr_right fun _ => ?_
  rw [Batch.findings]
  split_ifs with fatal
  · have counted := batch.isFatal_iff.1 fatal
    simp [Nat.ne_of_gt counted]
  · have none : batch.fatalCount = 0 := Nat.eq_zero_of_not_pos (mt batch.isFatal_iff.2 fatal)
    simp only [List.mem_map, Finding.issue.injEq, none, true_and]
    refine exists_congr fun message => and_congr_right fun _ => ?_
    constructor
    · rintro rfl
      exact message.toIssue_reports settings batch
    · intro reports
      exact reports.eq_toIssue.symm

/-- Every issue comes from a message, and its line is real just when the message does not tell line
zero. A suggestion shows the line that is told, or the first one in the place of line zero. -/
theorem ofBatches_lines_are_real_iff (settings : Settings) (batches : List Batch) :
    (∀ issue, .issue issue ∈ ofBatches settings.suggestions batches →
      ∃ batch ∈ batches, batch.fatalCount = 0 ∧ ∃ message ∈ batch.messages,
        issue.Reports settings batch message ∧
        (issue.LineIsReal batch message ↔ message.line ≠ some 0) ∧
        issue.Shows batch message (max issue.line.toNat 1)) ∧
    ((∀ issue, .issue issue ∈ ofBatches settings.suggestions batches → 1 ≤ issue.line) ↔
      ∀ batch ∈ batches, batch.fatalCount = 0 → ∀ message ∈ batch.messages,
        message.line ≠ some 0) := by
  simp only [issue_mem_ofBatches_iff]
  refine ⟨?_, ?_, ?_⟩
  · rintro issue ⟨batch, inBatches, whole, message, inBatch, reports⟩
    exact ⟨batch, inBatches, whole, message, inBatch, reports, reports.lineIsReal_iff,
      reports.shows⟩
  · intro positive batch inBatches whole message inBatch
    have reports := message.toIssue_reports settings batch
    exact reports.one_le_line_iff.1
      (positive _ ⟨batch, inBatches, whole, message, inBatch, reports⟩)
  · rintro told issue ⟨batch, inBatches, whole, message, inBatch, reports⟩
    exact reports.one_le_line_iff.2 (told batch inBatches whole message inBatch)

def zeroLine : Batch :=
  ⟨"a.js", [{ Message.blank with line := some 0, fix := some ⟨1, 1, ";"⟩ }], 0, some "a"⟩

theorem zeroLine_gives_issue_at_zero :
    (∃ text, Batch.allOfText text = .ok [zeroLine]) ∧
    ofBatches true [zeroLine] = [.issue ⟨"a.js", "", "", 0, some "a;"⟩] ∧
    (¬ ∀ issue, .issue issue ∈ ofBatches true [zeroLine] → 1 ≤ issue.line) ∧
    Suggestion.firstShown "a".toList 0 ⟨1, 1, ";"⟩ = 1 := by
  have found : ofBatches true [zeroLine] = [.issue ⟨"a.js", "", "", 0, some "a;"⟩] := by decide
  refine ⟨⟨_, Batch.allOfText_compact_singleton (by decide)⟩, found, fun positive => ?_, by decide⟩
  rw [found] at positive
  exact absurd (positive _ (List.mem_singleton_self _)) (by decide)

end Finding

end LintAdapter
