import LintAdapter.Proofs.Conversion.Findings

namespace LintAdapter.Batch

inductive Step where
  | setSource (source : String)
  | addMessage (message : Message)
  deriving DecidableEq

namespace Step

def apply (batch : Batch) : Step → Batch
  | setSource source => batch.setSource source
  | addMessage message => batch.addMessage message

def source? : Step → Option String
  | setSource source => some source
  | addMessage _ => none

def message? : Step → Option Message
  | setSource _ => none
  | addMessage message => some message

end Step

def build (path : String) (steps : List Step) : Batch := steps.foldl Step.apply (ofPath path)

def added (steps : List Step) : List Message := steps.filterMap Step.message?

def latestSource (steps : List Step) : Option String := (steps.filterMap Step.source?).getLast?

def Breaks (steps : List Step) : Prop := ∃ message, Step.addMessage message ∈ steps ∧ message.fatal

theorem mem_added (steps : List Step) (message : Message) :
    message ∈ added steps ↔ Step.addMessage message ∈ steps := by
  rw [added, List.mem_filterMap]
  constructor
  · rintro ⟨step, member, adds⟩
    cases step with
    | setSource source => cases adds
    | addMessage other =>
        cases adds
        exact member
  · intro member
    exact ⟨_, member, rfl⟩

theorem breaks_iff_countP_pos (steps : List Step) :
    Breaks steps ↔ 0 < (added steps).countP (·.fatal) := by
  simp only [Breaks, List.countP_pos_iff, mem_added]

theorem breaks_append (steps more : List Step) :
    Breaks (steps ++ more) ↔ Breaks steps ∨ Breaks more := by
  simp only [Breaks, List.mem_append, or_and_right, exists_or]

theorem added_concat (steps : List Step) (step : Step) :
    added (steps ++ [step]) = added steps ++ step.message?.toList := by
  rw [added, List.filterMap_append]
  cases step <;> rfl

theorem latestSource_concat (steps : List Step) (step : Step) :
    latestSource (steps ++ [step]) = step.source?.or (latestSource steps) := by
  rw [latestSource, List.filterMap_append]
  cases step with
  | setSource source => exact List.getLast?_concat
  | addMessage message => exact congrArg List.getLast? (List.append_nil _)

structure Follows (path : String) (steps : List Step) (batch : Batch) : Prop where
  path : batch.path = path
  messages : batch.messages = added steps
  fatalCount : batch.fatalCount = (added steps).countP (·.fatal)
  source : batch.source = latestSource steps

theorem Follows.apply {path : String} {steps : List Step} {batch : Batch}
    (follows : Follows path steps batch) (step : Step) :
    Follows path (steps ++ [step]) (step.apply batch) := by
  constructor
  · cases step <;> exact follows.path
  · rw [added_concat, ← follows.messages]
    cases step with
    | setSource source => exact (List.append_nil _).symm
    | addMessage message => rfl
  · rw [added_concat, List.countP_append, ← follows.fatalCount]
    cases step with
    | setSource source => rfl
    | addMessage message =>
        cases fatal : message.fatal <;>
          simp [Step.apply, Step.message?, Batch.addMessage, fatal]
  · rw [latestSource_concat, ← follows.source]
    cases step <;> rfl

theorem follows_build (path : String) (steps : List Step) :
    Follows path steps (build path steps) := by
  induction steps using List.reverseRecOn with
  | nil => exact ⟨rfl, rfl, rfl, rfl⟩
  | append_singleton steps step ih =>
      rw [build, List.foldl_concat]
      exact ih.apply step

theorem isFatal_build_iff (path : String) (steps : List Step) :
    (build path steps).isFatal ↔ Breaks steps := by
  rw [isFatal_iff, (follows_build path steps).fatalCount, breaks_iff_countP_pos]

/-- A batch built from any steps is known from the steps alone, and so are its findings: it stays
broken once a fatal message is added, and every message is reported with the latest source. -/
theorem build_follows_steps (settings : Settings) (path : String) (steps : List Step) :
    Follows path steps (build path steps) ∧
    ((build path steps).isFatal ↔ Breaks steps) ∧
    (∀ more, (build path (steps ++ more)).isFatal ↔
      (build path steps).isFatal ∨ Breaks more) ∧
    (build path steps).ReportedAs settings (Breaks steps)
      (Finding.ofBatches settings.suggestions [build path steps]) := by
  refine ⟨follows_build path steps, isFatal_build_iff path steps, fun more => ?_, ?_⟩
  · rw [isFatal_build_iff, isFatal_build_iff, breaks_append]
  · have reported := ((build path steps).findings_eq_iff settings _).1 rfl
    rw [Finding.ofBatches_singleton]
    rwa [← propext ((build path steps).isFatal_iff.symm.trans (isFatal_build_iff path steps))]

example : Finding.ofBatches true [build "a.js" [
      .setSource "", .addMessage { Message.blank with text := "m", fix := some ⟨1, 1, ";"⟩ },
      .setSource "a"]] =
    [.issue ⟨"a.js", "m", "", 1, some "a;"⟩] := by
  decide

end LintAdapter.Batch
