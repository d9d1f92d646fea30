import LintAdapter.Proofs.Rule.Exclusion
import LintAdapter.Proofs.Synthesis.Recommended

namespace LintAdapter

open Rule (Exclusion FoundBy Holds HoldsOnLine isUndocumented isUnsupported)

namespace Configuration

variable {files : Files.Tree} {repository : OsString} {request : Request} {registry : Registry}
  {settings : Settings} {configuration : Configuration} {globs : List String}

theorem supported_of_recommended
    (made : create files repository request registry settings = .ok (configuration, globs))
    (recommended : configuration.origin = .recommended) {id : String}
    (enabled : id ∈ configuration.rules.map Prod.fst) : isUnsupported id = false := by
  obtain ⟨-, -, ofDirectory⟩ := (create_eq_ok_iff _ _ _ _ _ _ _).1 made
  obtain ⟨-, ⟨_, _, origin, _⟩ | ⟨_, _, origin, _⟩ | ⟨-, -, -, entries, -, blocks⟩⟩ :=
    ofDirectory_cases ofDirectory
  · rw [origin] at recommended
    cases recommended
  · rw [origin] at recommended
    cases recommended
  · rw [mem_ids_rules_iff blocks] at enabled
    obtain ⟨⟨_, setting⟩, member, rfl⟩ := List.mem_map.1 enabled
    obtain ⟨entry, -, rfl, recommends, -⟩ := (mem_recommendedRules entries _ setting).1 member
    simp only [isRecommended, Bool.and_eq_true, Bool.not_eq_true'] at recommends
    exact recommends.1.1

theorem not_holds_of_recommended
    (made : create files repository request registry settings = .ok (configuration, globs))
    (recommended : configuration.origin = .recommended) {id excluded : String}
    (enabled : id ∈ configuration.rules.map Prod.fst) (unsupported : isUnsupported excluded) :
    ¬ Holds id excluded := by
  intro holds
  have supported := supported_of_recommended made recommended enabled
  rw [Rule.isUnsupported_of_holds holds unsupported] at supported
  cases supported

/-- An id is excluded from the recommended rules, or from the documentation, exactly when the
expression of an entry is found anywhere in it. It is so when it holds the text of an entry, or the
two texts of the one entry that has two on one line. With anything around it an excluded id stays
excluded, and no recommended rule holds one. -/
theorem exclusions_hold_in_context :
    (∀ id, isUnsupported id ↔ ∃ entry ∈ Exclusion.unsupported, FoundBy entry.expression id) ∧
    (∀ id, isUndocumented id ↔ ∃ entry ∈ Exclusion.undocumented, FoundBy entry.expression id) ∧
    (∀ id, isUnsupported id ↔
      (∃ needle, .text needle ∈ Exclusion.unsupported ∧ Holds id needle) ∨
        HoldsOnLine id "unused-imports/" "-ts") ∧
    (∀ id, isUndocumented id ↔
      ∃ needle, .text needle ∈ Exclusion.undocumented ∧ Holds id needle) ∧
    (∀ before id after, isUnsupported id → isUnsupported (before ++ id ++ after)) ∧
    (∀ before id after, isUndocumented id → isUndocumented (before ++ id ++ after)) ∧
    ∀ files repository request registry settings configuration globs,
      create files repository request registry settings = .ok (configuration, globs) →
      configuration.origin = .recommended → ∀ id ∈ configuration.rules.map Prod.fst,
        ∀ excluded, isUnsupported excluded → ¬ Holds id excluded := by
  refine ⟨?_, ?_, Rule.isUnsupported_iff, Rule.isUndocumented_iff, ?_, ?_, ?enabled⟩
  · exact Exclusion.any_excludes_iff_foundBy (List.subset_append_left _ _)
  · exact Exclusion.any_excludes_iff_foundBy (List.subset_append_right _ _)
  · exact fun before _ after excluded => Exclusion.any_excludes_append excluded before after
  · exact fun before _ after excluded => Exclusion.any_excludes_append excluded before after
  case enabled =>
    intro files repository request registry settings configuration globs made recommended id
      enabled excluded unsupported
    exact not_holds_of_recommended made recommended enabled unsupported

def oneExcluded : List Catalog.Entry :=
  [⟨"functional/no-let-in-loops", ⟨false, true, none⟩⟩, ⟨"semi", ⟨false, true, none⟩⟩]

theorem create_skips_longer_id :
    ∃ configuration,
      create .empty "." .empty (.ok oneExcluded) .default = .ok (configuration, defaultFiles) ∧
      configuration.origin = .recommended ∧ "semi" ∈ configuration.rules.map Prod.fst ∧
      isUnsupported "functional/no-let" ∧ ¬ Holds "semi" "functional/no-let" ∧
      isUnsupported "functional/no-let-in-loops" ∧
      "functional/no-let-in-loops" ∉ configuration.rules.map Prod.fst := by
  obtain ⟨-, -, unsupported, -, inContext, -, enablesNone⟩ := exclusions_hold_in_context
  have isDirectory : Files.Tree.empty.isDirectory "." := rfl
  obtain ⟨configuration, created, origin, blocks⟩ : ∃ configuration,
      create .empty "." .empty (.ok oneExcluded) .default = .ok (configuration, defaultFiles) ∧
      configuration.origin = .recommended ∧
      configuration.blocks = some (Block.ofRules (recommendedRules oneExcluded)) :=
    ⟨_, create_of_recommends isDirectory rfl (Request.empty.selection?_eq_none_iff.1 rfl)
      oneExcluded .default, rfl, rfl⟩
  have listed : Exclusion.text "functional/no-let" ∈ Exclusion.unsupported := by
    simp [Exclusion.unsupported]
  have short : isUnsupported "functional/no-let" :=
    (unsupported _).2 (.inl ⟨_, listed, "", "", rfl⟩)
  have recommended : ("semi", Rule.Setting.enabled) ∈ recommendedRules oneExcluded :=
    (mem_recommendedRules _ _ _).2 ⟨_, List.mem_cons_of_mem _ List.mem_cons_self, rfl,
      by decide +kernel, rfl⟩
  have semi : "semi" ∈ configuration.rules.map Prod.fst :=
    (mem_ids_rules_iff blocks "semi").2 (List.mem_map_of_mem recommended)
  have longer : "functional/no-let-in-loops" = "" ++ "functional/no-let" ++ "-in-loops" := by decide
  refine ⟨configuration, created, origin, semi, short, ?_, ?_, ?_⟩
  · exact enablesNone _ _ _ _ _ _ _ created origin _ semi _ short
  · rw [longer]
    exact inContext _ _ _ short
  · intro enabled
    exact enablesNone _ _ _ _ _ _ _ created origin _ enabled _ short ⟨_, _, longer⟩

end Configuration

end LintAdapter
