import LintAdapter.Proofs.Conversion.Findings

namespace LintAdapter

def Batch.withoutSource (batch : Batch) : Batch := { batch with source := none }

namespace Finding

def suggestion? : Finding → Option String
  | issue found => found.suggestion
  | fileError _ => none

def withoutSuggestion : Finding → Finding
  | issue found => issue { found with suggestion := none }
  | fileError error => fileError error

end Finding

namespace Batch

theorem map_withoutSuggestion_findings (suggestions : Bool) (batch : Batch) :
    (batch.findings suggestions).map Finding.withoutSuggestion =
      batch.withoutSource.findings false := by
  -- Whether a batch is broken is told by its count alone.
  have sameCount : batch.withoutSource.isFatal = batch.isFatal := rfl
  rw [findings, findings, sameCount]
  split_ifs with fatal
  · rfl
  · rw [List.map_map]
    rfl

theorem suggestionSource_eq_none {suggestions : Bool} {batch : Batch}
    (missing : suggestions = false ∨ batch.source = none) :
    batch.suggestionSource suggestions = none := by
  cases missing with
  | inl off => simp [suggestionSource, off]
  | inr absent => simp [suggestionSource, absent]

theorem suggestion?_eq_none {suggestions : Bool} {batch : Batch}
    (missing : suggestions = false ∨ batch.source = none) :
    ∀ found ∈ batch.findings suggestions, found.suggestion? = none := by
  rw [findings, suggestionSource_eq_none missing]
  split_ifs with fatal
  · intro found member
    cases List.mem_singleton.1 member
    rfl
  · intro found member
    obtain ⟨message, -, rfl⟩ := List.mem_map.1 member
    rfl

end Batch

namespace Finding

theorem map_withoutSuggestion_ofBatches (suggestions : Bool) (batches : List Batch) :
    (ofBatches suggestions batches).map withoutSuggestion =
      ofBatches false (batches.map Batch.withoutSource) := by
  rw [ofBatches, ofBatches, List.map_flatMap, List.flatMap_map]
  simp only [Batch.map_withoutSuggestion_findings]

theorem suggestion?_eq_none_of_off (batches : List Batch) :
    ∀ found ∈ ofBatches false batches, found.suggestion? = none := by
  intro found member
  obtain ⟨batch, -, inBatch⟩ := List.mem_flatMap.1 member
  exact Batch.suggestion?_eq_none (.inl rfl) found inBatch

/-- Two conversions of batches that differ in their sources, under whatever settings, give the same
findings but for the suggestions. There are none when they are off or there is no source, and the
other settings change nothing. -/
theorem ofBatches_differ_in_suggestions (first second : Settings) (batches others : List Batch)
    (same : batches.map Batch.withoutSource = others.map Batch.withoutSource) :
    (first.convert batches).length = (second.convert others).length ∧
    List.Forall₂ (fun found other => found.withoutSuggestion = other.withoutSuggestion)
      (first.convert batches) (second.convert others) ∧
    (first.suggestions = false → ∀ found ∈ first.convert batches, found.suggestion? = none) ∧
    (∀ batch ∈ batches, batch.source = none →
      ∀ found ∈ first.convert [batch], found.suggestion? = none) ∧
    ∀ debug catalog exclude,
      Settings.convert ⟨debug, first.suggestions, catalog, exclude⟩ batches =
        first.convert batches := by
  have erased : (first.convert batches).map withoutSuggestion =
      (second.convert others).map withoutSuggestion := by
    rw [Settings.convert, Settings.convert, map_withoutSuggestion_ofBatches,
      map_withoutSuggestion_ofBatches, same]
  refine ⟨?_, ?_, ?_, ?_, fun _ _ _ => rfl⟩
  · simpa only [List.length_map] using congrArg List.length erased
  · rw [← List.forall₂_eq_eq_eq, List.forall₂_map_left_iff, List.forall₂_map_right_iff] at erased
    exact erased
  · intro off
    rw [Settings.convert, off]
    exact suggestion?_eq_none_of_off batches
  · intro batch _ absent
    rw [Settings.convert, ofBatches_singleton]
    exact Batch.suggestion?_eq_none (.inr absent)

def suggesting : Settings := ⟨false, true, none, []⟩

def silentSettings : Settings := ⟨true, false, some (.ofText "rules.json"), ["lib"]⟩

def reportsWith (first second : Option String) : List Batch :=
  [⟨"a.js", [{ Message.blank with fix := some ⟨1, 1, ";"⟩ }], 0, first⟩,
    ⟨"b.js", [{ Message.blank with fix := some ⟨1, 1, ";"⟩ }], 0, second⟩]

theorem ofBatches_reportsWith :
    suggesting.convert (reportsWith (some "a") none) =
      [.issue ⟨"a.js", "", "", 1, some "a;"⟩, .issue ⟨"b.js", "", "", 1, none⟩] ∧
    List.Forall₂ (fun found other => found.withoutSuggestion = other.withoutSuggestion)
      (suggesting.convert (reportsWith (some "a") none))
      (silentSettings.convert (reportsWith none (some "b"))) ∧
    (∀ batch ∈ reportsWith (some "a") none, batch.source = none →
      ∀ found ∈ suggesting.convert [batch], found.suggestion? = none) ∧
    ∀ found ∈ silentSettings.convert (reportsWith none (some "b")), found.suggestion? = none := by
  obtain ⟨-, same, -, absent, -⟩ := ofBatches_differ_in_suggestions suggesting silentSettings
    (reportsWith (some "a") none) (reportsWith none (some "b")) rfl
  obtain ⟨-, -, silent, -⟩ := ofBatches_differ_in_suggestions silentSettings suggesting
    (reportsWith none (some "b")) (reportsWith (some "a") none) rfl
  exact ⟨by decide, same, absent, silent rfl⟩

end Finding

end LintAdapter
