import LintAdapter.Conversion
import LintAdapter.Proofs.Json.Members
import LintAdapter.Settings
import Mathlib.Algebra.Ring.Nat
import Mathlib.Data.List.Forall2

namespace LintAdapter

/-- What an issue tells of a message, with a suggestion where these are on and there is a source. -/
structure Issue.Reports (settings : Settings) (batch : Batch) (message : Message)
    (issue : Issue) : Prop where
  path : issue.path = batch.path
  text : issue.text = message.text
  line : message.line = some issue.line ∨ message.line = none ∧ issue.line = 1
  rule : ∀ id, message.ruleId = some id → issue.patternId = Rule.toPlatformId id
  noRule : message.ruleId = none → issue.patternId = ""
  suggested : settings.suggestions → ∀ source, batch.source = some source →
    issue.suggestion = Suggestion.compute source issue.line message.endLine message.fix
      message.alternatives
  unsuggested : settings.suggestions = false ∨ batch.source = none → issue.suggestion = none

/-- The text holds those of exactly the fatal messages, with a backslash and an `n` between two. -/
structure FileError.Joins (batch : Batch) (error : FileError) : Prop where
  path : error.path = batch.path
  text : error.text.toList =
    ['\\', 'n'].intercalate ((batch.messages.filter (·.fatal)).map (·.text.toList))

/-- How a batch is reported when its file could be parsed, and when it is `broken`. -/
inductive Batch.ReportedAs (settings : Settings) (batch : Batch) (broken : Prop) :
    List Finding → Prop
  | failed (isBroken : broken) (error : FileError) (joins : error.Joins batch) :
      ReportedAs settings batch broken [.fileError error]
  | analyzed (isWhole : ¬ broken) (issues : List Issue)
      (reports : List.Forall₂ (Issue.Reports settings batch) batch.messages issues) :
      ReportedAs settings batch broken (issues.map .issue)

theorem Message.toIssue_reports (settings : Settings) (batch : Batch) (message : Message) :
    (message.toIssue batch.path (batch.suggestionSource settings.suggestions)).Reports settings
      batch message where
  path := rfl
  text := rfl
  line := by
    cases line : message.line with
    | none => exact .inr ⟨rfl, by rw [toIssue, reportedLine, line]; rfl⟩
    | some n => exact .inl (by rw [toIssue, reportedLine, line]; rfl)
  rule := by
    intro id named
    rw [toIssue, named]
    rfl
  noRule := by
    intro unnamed
    rw [toIssue, unnamed]
    rfl
  suggested := by
    intro on source present
    simp only [toIssue, Batch.suggestionSource, on, if_true, present, Option.bind_some]
  unsuggested := by
    rintro (off | absent)
    · simp [toIssue, Batch.suggestionSource, off]
    · simp [toIssue, Batch.suggestionSource, absent]

theorem Issue.Reports.eq_toIssue {settings : Settings} {batch : Batch} {message : Message}
    {issue : Issue} (reports : issue.Reports settings batch message) :
    issue = message.toIssue batch.path (batch.suggestionSource settings.suggestions) := by
  have line : issue.line = message.reportedLine := by
    rw [Message.reportedLine]
    rcases reports.line with given | ⟨missing, first⟩
    · rw [given, Option.getD_some]
    · rw [missing, Option.getD_none, first]
  have patternId : issue.patternId = Rule.toPlatformIdOrPlaceholder message.ruleId := by
    cases ruleId : message.ruleId with
    | none => exact reports.noRule ruleId
    | some id => exact reports.rule id ruleId
  have suggestion : issue.suggestion =
      (batch.suggestionSource settings.suggestions).bind fun source =>
        Suggestion.compute source message.reportedLine message.endLine message.fix
          message.alternatives := by
    cases on : settings.suggestions with
    | false => exact reports.unsuggested (.inl on)
    | true =>
        cases source : batch.source with
        | none => simpa [Batch.suggestionSource, source] using reports.unsuggested (.inr source)
        | some text =>
            simpa [Batch.suggestionSource, source, line] using reports.suggested on text source
  cases issue
  simp only [Message.toIssue, Issue.mk.injEq]
  exact ⟨reports.path, reports.text, patternId, line, suggestion⟩

theorem Batch.isFatal_iff (batch : Batch) : batch.isFatal ↔ 0 < batch.fatalCount :=
  decide_eq_true_iff

theorem FileError.joins_iff (batch : Batch) (error : FileError) :
    error.Joins batch ↔ error = batch.toFileError := by
  have joined : batch.toFileError.text.toList =
      ['\\', 'n'].intercalate ((batch.messages.filter (·.fatal)).map (·.text.toList)) := by
    rw [Batch.toFileError, String.toList_intercalate, List.map_map]
    rfl
  constructor
  · intro joins
    have text : error.text = batch.toFileError.text :=
      String.toList_inj.1 (joins.text.trans joined.symm)
    cases error
    cases joins.path
    cases text
    rfl
  · rintro rfl
    exact ⟨rfl, joined⟩

theorem Issue.forall₂_reports_iff (settings : Settings) (batch : Batch) (messages : List Message)
    (issues : List Issue) :
    List.Forall₂ (Issue.Reports settings batch) messages issues ↔
      issues = messages.map
        (·.toIssue batch.path (batch.suggestionSource settings.suggestions)) := by
  constructor
  · intro reports
    induction reports with
    | nil => rfl
    | cons head _ ih => rw [List.map_cons, ← ih, head.eq_toIssue]
  · rintro rfl
    rw [List.forall₂_map_right_iff, List.forall₂_same]
    exact fun message _ => message.toIssue_reports settings batch

theorem Batch.findings_eq_iff (settings : Settings) (batch : Batch) (found : List Finding) :
    batch.findings settings.suggestions = found ↔
      batch.ReportedAs settings (0 < batch.fatalCount) found := by
  rw [findings]
  constructor
  · rintro rfl
    split_ifs with fatal
    · exact .failed (batch.isFatal_iff.1 fatal) _ ((FileError.joins_iff batch _).2 rfl)
    · have reports := (Issue.forall₂_reports_iff settings batch batch.messages _).2 rfl
      simpa only [List.map_map, Function.comp_def] using
        ReportedAs.analyzed (mt batch.isFatal_iff.2 fatal) _ reports
  · rintro (⟨fatal, error, joins⟩ | ⟨whole, issues, reports⟩)
    · rw [if_pos (batch.isFatal_iff.2 fatal), (FileError.joins_iff batch error).1 joins]
    · rw [if_neg (mt batch.isFatal_iff.1 whole),
        (Issue.forall₂_reports_iff settings batch _ _).1 reports, List.map_map]
      rfl

theorem Batch.ReportedAs.broken_iff {settings : Settings} {batch : Batch} {broken : Prop}
    {found : List Finding} (reported : batch.ReportedAs settings broken found) :
    broken ↔ ∃ error, found = [.fileError error] := by
  -- One error is never a list of issues, so the findings tell which case it is.
  cases reported with
  | failed isBroken error joins => exact iff_of_true isBroken ⟨error, rfl⟩
  | analyzed isWhole issues reports =>
      refine iff_of_false isWhole ?_
      rintro ⟨error, single⟩
      cases issues <;> simp at single

theorem Batch.ReportedAs.exists_issues {settings : Settings} {batch : Batch} {broken : Prop}
    {found : List Finding} (reported : batch.ReportedAs settings broken found)
    (isWhole : ¬ broken) :
    ∃ issues : List Issue, found = issues.map .issue ∧
      List.Forall₂ (Issue.Reports settings batch) batch.messages issues := by
  cases reported with
  | failed isBroken error joins => exact absurd isBroken isWhole
  | analyzed _ issues reports => exact ⟨issues, rfl, reports⟩

theorem Batch.ReportedAs.countP_isIssue {settings : Settings} {batch : Batch} {broken : Prop}
    {found : List Finding} (reported : batch.ReportedAs settings broken found) [Decidable broken] :
    found.countP (·.isIssue) = (if broken then 0 else batch.messages.length) ∧
      found.countP (!·.isIssue) = if broken then 1 else 0 := by
  cases reported with
  | failed isBroken error joins => simp [isBroken, Finding.isIssue]
  | analyzed isWhole issues reports =>
      simp [isWhole, List.countP_map, Function.comp_def, Finding.isIssue, reports.length_eq]

namespace Finding

theorem ofBatches_append (suggestions : Bool) (first second : List Batch) :
    ofBatches suggestions (first ++ second) =
      ofBatches suggestions first ++ ofBatches suggestions second :=
  List.flatMap_append

theorem ofBatches_singleton (suggestions : Bool) (batch : Batch) :
    ofBatches suggestions [batch] = batch.findings suggestions :=
  List.flatMap_singleton _ _

theorem ofBatches_eq_flatMap (suggestions : Bool) (batches : List Batch) :
    ofBatches suggestions batches =
      batches.flatMap fun batch => ofBatches suggestions [batch] := by
  simp only [ofBatches_singleton]
  rfl

theorem count_ofBatches (settings : Settings) (batches : List Batch) :
    count (ofBatches settings.suggestions batches) =
      (((batches.filter (·.fatalCount = 0)).map (·.messages.length)).sum,
        batches.countP (0 < ·.fatalCount)) := by
  induction batches with
  | nil => rfl
  | cons batch rest ih =>
      obtain ⟨issues, errors⟩ := ((batch.findings_eq_iff settings _).1 rfl).countP_isIssue
      rw [count, Prod.mk.injEq] at ih ⊢
      rw [ofBatches, List.flatMap_cons, List.countP_append, List.countP_append, issues, errors,
        ← ofBatches, ih.1, ih.2]
      rcases Nat.eq_zero_or_pos batch.fatalCount with zero | fatal
      · simp [zero]
      · simp [fatal, Nat.ne_of_gt fatal, Nat.add_comm]

/-- Nothing is lost, invented or moved. The findings are those of the single batches one after
another, a batch has just the findings that the count of fatal messages calls for, and so the
numbers of issues and of errors follow from the batches. -/
theorem ofBatches_reports_each_batch (settings : Settings) :
    (∀ first second, ofBatches settings.suggestions (first ++ second) =
      ofBatches settings.suggestions first ++ ofBatches settings.suggestions second) ∧
    (∀ batches, ofBatches settings.suggestions batches =
      batches.flatMap fun batch => ofBatches settings.suggestions [batch]) ∧
    (∀ batch found, ofBatches settings.suggestions [batch] = found ↔
      batch.ReportedAs settings (0 < batch.fatalCount) found) ∧
    ∀ batches, count (ofBatches settings.suggestions batches) =
      (((batches.filter (·.fatalCount = 0)).map (·.messages.length)).sum,
        batches.countP (0 < ·.fatalCount)) := by
  refine ⟨ofBatches_append _, ofBatches_eq_flatMap _, fun batch found => ?_,
    count_ofBatches settings⟩
  rw [ofBatches_singleton, batch.findings_eq_iff settings]

theorem ofBatches_heeds_flags_iff (settings : Settings) (batches : List Batch) :
    ofBatches settings.suggestions batches =
      batches.flatMap (fun batch => ofBatches settings.suggestions [batch]) ∧
    ∀ batch ∈ batches,
      batch.ReportedAs settings (∃ message ∈ batch.messages, message.fatal)
          (ofBatches settings.suggestions [batch]) ↔
        (0 < batch.fatalCount ↔ ∃ message ∈ batch.messages, message.fatal) := by
  refine ⟨ofBatches_eq_flatMap _ batches, fun batch _ => ?_⟩
  have counted := (batch.findings_eq_iff settings _).1 rfl
  rw [ofBatches_singleton]
  constructor
  · intro flagged
    exact counted.broken_iff.trans flagged.broken_iff.symm
  · intro agree
    rwa [← propext agree]

def uncountedReport : String :=
  "[\x7b\"filePath\":\"a.js\",\"messages\":[\x7b\"fatal\":true,\"message\":\"boom\"\x7d]\x7d]"

theorem allOfText_uncountedReport :
    Batch.allOfText uncountedReport = .ok [⟨"a.js", [.ofFatal "boom"], 0, none⟩] := by
  have tokens : Json.Token.ofText uncountedReport.toList = [
      .openList, .openObject,
      .string ("filePath".toList.map .plain), .colon, .string ("a.js".toList.map .plain), .comma,
      .string ("messages".toList.map .plain), .colon, .openList, .openObject,
      .string ("fatal".toList.map .plain), .colon, .bool true, .comma,
      .string ("message".toList.map .plain), .colon, .string ("boom".toList.map .plain),
      .closeObject, .closeList, .closeObject, .closeList] := by
    decide +kernel
  have tree : Json.Tree.ofText uncountedReport.toList =
      (.list [.object [
        ("filePath".toList.map .plain, .string ("a.js".toList.map .plain)),
        ("messages".toList.map .plain, .list [.object [
          ("fatal".toList.map .plain, .bool true),
          ("message".toList.map .plain, .string ("boom".toList.map .plain))] none] none)] none]
        none, false) := by
    rw [Json.Tree.ofText, tokens]
    simp only [Json.Tree.build, Json.Tree.step, Json.Tree.start, Json.Tree.startName,
      Json.Tree.place, Json.Tree.finish, List.reverse_cons, List.reverse_nil, List.nil_append,
      List.cons_append, List.isEmpty_nil, Bool.not_true]
  exact (Json.Decoder.document_eq_ok_iff _ _ _).2 ⟨_, tree, rfl⟩

theorem uncounted_fatal_message_gives_issue :
    ∃ batch, Batch.allOfText uncountedReport = .ok [batch] ∧
      (∃ message ∈ batch.messages, message.fatal) ∧
      ∀ settings : Settings,
        ofBatches settings.suggestions [batch] = [.issue ⟨"a.js", "boom", "", 1, none⟩] ∧
        ¬ batch.ReportedAs settings (∃ message ∈ batch.messages, message.fatal)
          (ofBatches settings.suggestions [batch]) := by
  refine ⟨_, allOfText_uncountedReport, ⟨_, List.mem_cons_self, rfl⟩, fun settings => ?_⟩
  have found : ofBatches settings.suggestions [⟨"a.js", [.ofFatal "boom"], 0, none⟩] =
      [.issue ⟨"a.js", "boom", "", 1, none⟩] := by
    cases settings.suggestions <;> rfl
  refine ⟨found, fun flagged => ?_⟩
  obtain ⟨error, single⟩ := flagged.broken_iff.1 ⟨_, List.mem_cons_self, rfl⟩
  rw [found] at single
  exact nomatch single

end Finding

end LintAdapter
