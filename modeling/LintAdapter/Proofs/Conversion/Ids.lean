import LintAdapter.Conversion
import LintAdapter.Proofs.Rule.Id

namespace LintAdapter

open Rule (toPlatformId ofPlatformId DifferInSeparators)

theorem Rule.slash_not_mem_toPlatformIdOrPlaceholder (id : Option String) :
    '/' ∉ (toPlatformIdOrPlaceholder id).toList := by
  cases id with
  | none => exact List.not_mem_nil
  | some id => exact slash_not_mem_toPlatformId id

namespace Finding

theorem slash_not_mem_patternId {suggestions : Bool} {batches : List Batch} {issue : Issue}
    (found : .issue issue ∈ ofBatches suggestions batches) : '/' ∉ issue.patternId.toList := by
  obtain ⟨batch, -, inBatch⟩ := List.mem_flatMap.1 found
  rw [Batch.findings] at inBatch
  split_ifs at inBatch with fatal
  · cases List.mem_singleton.1 inBatch
  · obtain ⟨message, -, reported⟩ := List.mem_map.1 inBatch
    cases reported
    exact Rule.slash_not_mem_toPlatformIdOrPlaceholder message.ruleId

theorem ofBatches_reports_platform_spelling :
    (∀ id, ofPlatformId (toPlatformId id) = id ↔ '_' ∉ id.toList) ∧
    (∀ id, toPlatformId (ofPlatformId id) = id ↔ '/' ∉ id.toList) ∧
    (∀ id, '/' ∉ (toPlatformId id).toList ∧ '_' ∉ (ofPlatformId id).toList) ∧
    (∀ first second, toPlatformId first = toPlatformId second ↔ DifferInSeparators first second) ∧
    Set.InjOn toPlatformId {id | '_' ∉ id.toList} ∧
    ∀ suggestions batches issue, .issue issue ∈ ofBatches suggestions batches →
      '/' ∉ issue.patternId.toList :=
  ⟨Rule.ofPlatformId_toPlatformId_eq_iff, Rule.toPlatformId_ofPlatformId_eq_iff,
    fun id => ⟨Rule.slash_not_mem_toPlatformId id, Rule.underscore_not_mem_ofPlatformId id⟩,
    Rule.toPlatformId_eq_iff, Rule.injOn_toPlatformId, fun _ _ _ => slash_not_mem_patternId⟩

def separatedReport : Batch :=
  ⟨"a.js", [{ Message.blank with ruleId := some "@a//b_/c" }], 0, none⟩

theorem ofBatches_separatedReport :
    .issue ⟨"a.js", "", "@a__b__c", 1, none⟩ ∈ ofBatches false [separatedReport] ∧
      '/' ∉ "@a__b__c".toList := by
  have found : .issue ⟨"a.js", "", "@a__b__c", 1, none⟩ ∈ ofBatches false [separatedReport] := by
    decide +kernel
  obtain ⟨-, -, -, -, -, noSlash⟩ := ofBatches_reports_platform_spelling
  exact ⟨found, noSlash _ _ _ found⟩

end Finding

end LintAdapter
