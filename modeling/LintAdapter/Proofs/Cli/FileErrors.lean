import LintAdapter.Proofs.Cli.Convert
import LintAdapter.Proofs.Conversion.Findings

namespace LintAdapter

open Json (Value)

theorem count_intercalate {α : Type} [BEq α] [LawfulBEq α] {separator : List α} {a : α}
    (absent : a ∉ separator) (texts : List (List α)) :
    (separator.intercalate texts).count a = (texts.map (·.count a)).sum := by
  induction texts with
  | nil => rfl
  | cons text rest ih =>
      cases rest with
      | nil => simp
      | cons next rest =>
          -- The separator before the next text adds nothing.
          rw [List.intercalate_cons_cons, List.count_append, List.count_append, ih,
            List.count_eq_zero_of_not_mem absent, Nat.add_zero]
          rfl

def Batch.lineFeedsTold (batch : Batch) : Nat :=
  batch.path.toList.count '\n' +
    ((batch.messages.filter (·.fatal)).map (·.text.toList.count '\n')).sum

theorem Batch.lineFeedsTold_eq_zero_iff (batch : Batch) :
    batch.lineFeedsTold = 0 ↔ '\n' ∉ batch.path.toList ∧
      ∀ message ∈ batch.messages, message.fatal → '\n' ∉ message.text.toList := by
  rw [lineFeedsTold, Nat.add_eq_zero_iff, List.sum_eq_zero_iff_forall_eq_nat]
  simp only [List.forall_mem_map, List.mem_filter, List.count_eq_zero, and_imp]

theorem FileError.Joins.count_display {batch : Batch} {error : FileError}
    (joins : error.Joins batch) : error.display.toList.count '\n' = batch.lineFeedsTold := by
  rw [display, String.toList_append, String.toList_append, List.count_append, List.count_append,
    joins.path, joins.text, count_intercalate (by decide), Batch.lineFeedsTold, List.map_map]
  rfl

namespace Cli

def IsLine (entry : String) : Prop := ∃ text, '\n' ∉ text ∧ entry.toList = text ++ ['\n']

theorem isLine_line_iff (text : String) : IsLine (line text) ↔ '\n' ∉ text.toList := by
  have ends : (line text).toList = text.toList ++ ['\n'] := String.toList_append
  constructor
  · rintro ⟨shown, absent, same⟩
    rw [ends] at same
    rwa [List.append_cancel_right same]
  · intro absent
    exact ⟨text.toList, absent, ends⟩

theorem count_textLines_fileError (error : FileError) :
    (textLines (.fileError error)).toList.count '\n' = error.display.toList.count '\n' + 1 := by
  rw [textLines, line, String.toList_append, String.toList_append, String.toList_append,
    List.count_append, List.count_append, List.count_append]
  change 0 + _ + 0 + 1 = _
  rw [Nat.zero_add, Nat.add_zero]

theorem isLine_fileError_iff (error : FileError) :
    IsLine (textLines (.fileError error)) ↔ '\n' ∉ error.display.toList := by
  rw [textLines, isLine_line_iff, String.toList_append, String.toList_append, List.mem_append,
    List.mem_append, not_or, not_or]
  have colours : '\n' ∉ red.toList ∧ '\n' ∉ plain.toList := by decide
  exact ⟨fun absent => absent.1.2, fun absent => ⟨⟨colours.1, absent⟩, colours.2⟩⟩

def textEntries (findings : List Finding) : String := String.join (findings.map textLines)

theorem textEntries_append (first second : List Finding) :
    textEntries (first ++ second) = textEntries first ++ textEntries second := by
  rw [textEntries, List.map_append, String.join_append]
  rfl

/-- A call that converts a report with these batches, and has text printed. -/
inductive ConvertsToText (world : World) (arguments : List OsString) (settings : Settings)
    (batches : List Batch) : Prop
  | given (invocation : Invocation) (input : Option OsString) (text : String)
      (reads : read arguments = .ok invocation)
      (converts : invocation.command = .convert input .text)
      (loads : effectiveSettings world (settingsSource world invocation) = .ok settings)
      (receives : Receives world input text) (holds : Batch.ReadFrom text batches)

theorem ConvertsToText.stdout {world : World} {arguments : List OsString} {settings : Settings}
    {batches : List Batch} (converts : ConvertsToText world arguments settings batches) :
    (program world arguments).stdout =
      textEntries (Finding.ofBatches settings.suggestions batches) ++
        summary (Finding.ofBatches settings.suggestions batches) := by
  obtain ⟨invocation, input, text, reads, converts, loads, receives, holds⟩ := converts
  have called := program_prints reads fun given => by
    rw [converts]
    exact prints_run_convert receives .text given
  rw [called.stdout, loads]
  change ((Batch.ofReport? text).map _).getD "" = _
  rw [(Batch.ofReport?_eq_some_iff text batches).2 holds]
  rfl

theorem exists_convertsToText_singleton {batch : Batch}
    (counted : batch.fatalCount < 0x10000000000000000) : ∃ text : String,
    Batch.allOfText text = .ok [batch] ∧
    ConvertsToText (.receiving text) ["convert", "--format", "text"] .default [batch] := by
  have accepted := Batch.allOfText_compact_singleton counted
  generalize (Value.list [batch.toValue]).compact = text at accepted
  exact ⟨text, accepted,
    .given _ none text rfl rfl rfl (.standardInput text rfl) (.document _ accepted)⟩

theorem fileError_isLine_iff (settings : Settings) (batch : Batch)
    (broken : 0 < batch.fatalCount) :
    ∃ error, Finding.ofBatches settings.suggestions [batch] = [.fileError error] ∧
      error.Joins batch ∧
      (textLines (.fileError error)).toList.count '\n' = batch.lineFeedsTold + 1 ∧
      (IsLine (textLines (.fileError error)) ↔ '\n' ∉ error.display.toList) ∧
      ('\n' ∉ error.display.toList ↔ '\n' ∉ batch.path.toList ∧
        ∀ message ∈ batch.messages, message.fatal → '\n' ∉ message.text.toList) ∧
      ∀ world arguments before after,
        ConvertsToText world arguments settings (before ++ batch :: after) →
        (program world arguments).stdout =
          textEntries (Finding.ofBatches settings.suggestions before) ++
            textLines (.fileError error) ++
            textEntries (Finding.ofBatches settings.suggestions after) ++
            summary (Finding.ofBatches settings.suggestions (before ++ batch :: after)) := by
  have joins := (FileError.joins_iff batch _).2 rfl
  have single : Finding.ofBatches settings.suggestions [batch] = [.fileError batch.toFileError] :=
    (Finding.ofBatches_singleton _ _).trans <|
      (batch.findings_eq_iff settings _).2 (.failed broken _ joins)
  refine ⟨batch.toFileError, single, joins, ?_, isLine_fileError_iff _, ?_, ?_⟩
  · rw [count_textLines_fileError, joins.count_display]
  · rw [← batch.lineFeedsTold_eq_zero_iff, ← joins.count_display, List.count_eq_zero]
  · intro world arguments before after converts
    -- The output follows the batches, so it is cut where they are.
    have around :
        textEntries (Finding.ofBatches settings.suggestions (before ++ [batch] ++ after)) =
          textEntries (Finding.ofBatches settings.suggestions before) ++
            textLines (.fileError batch.toFileError) ++
            textEntries (Finding.ofBatches settings.suggestions after) := by
      rw [Finding.ofBatches_append, Finding.ofBatches_append, single, textEntries_append,
        textEntries_append]
      rfl
    rw [← around, List.append_assoc]
    exact converts.stdout

def twiceBroken : Batch := ⟨"a.js", [.ofFatal "x", .ofFatal "y"], 2, none⟩

theorem twiceBroken_isLine : 0 < twiceBroken.fatalCount ∧ ∃ (text : String) (error : FileError),
    Finding.ofBatches true [twiceBroken] = [.fileError error] ∧
    error.display = "a.js: error: x\\ny" ∧ IsLine (textLines (.fileError error)) ∧
    (call (.receiving text) ["convert", "--format", "text"]).stdout =
      "\x1b[31ma.js: error: x\\ny\x1b[0m\n\x1b[31mFound 0 issue(s), 1 file error(s)\x1b[0m\n" := by
  have broken : 0 < twiceBroken.fatalCount := by decide
  obtain ⟨text, -, converts⟩ :=
    exists_convertsToText_singleton (show twiceBroken.fatalCount < 0x10000000000000000 by decide)
  obtain ⟨error, single, -, -, isLine, absent, printed⟩ :=
    fileError_isLine_iff .default twiceBroken broken
  have found : Finding.ofBatches true [twiceBroken] = [.fileError twiceBroken.toFileError] := by
    decide
  cases single.symm.trans found
  refine ⟨broken, text, _, found, by decide, isLine.2 (absent.2 (by decide)), ?_⟩
  refine (printed _ _ [] [] converts).trans ?_
  decide

def brokenTwoLines : Batch := ⟨"a.js", [.ofFatal "a\nb"], 1, none⟩

theorem brokenTwoLines_takes_two_lines : ∃ text : String,
    Batch.allOfText text = .ok [brokenTwoLines] ∧
    Finding.ofBatches true [brokenTwoLines] = [.fileError ⟨"a.js", "a\nb"⟩] ∧
    '\n' ∈ (FileError.display ⟨"a.js", "a\nb"⟩).toList ∧
    ¬ IsLine (textLines (.fileError ⟨"a.js", "a\nb"⟩)) ∧
    (call (.receiving text) ["convert", "--format", "text"]).stdout =
      "\x1b[31ma.js: error: a\nb\x1b[0m\n\x1b[31mFound 0 issue(s), 1 file error(s)\x1b[0m\n" := by
  obtain ⟨text, accepted, converts⟩ :=
    exists_convertsToText_singleton (show brokenTwoLines.fatalCount < 0x10000000000000000 by decide)
  have twoLines : '\n' ∈ (FileError.display ⟨"a.js", "a\nb"⟩).toList := by decide
  refine ⟨text, accepted, by decide, twoLines, ?_, ?_⟩
  · rw [isLine_fileError_iff]
    exact not_not_intro twoLines
  · refine converts.stdout.trans ?_
    decide

end Cli

end LintAdapter
