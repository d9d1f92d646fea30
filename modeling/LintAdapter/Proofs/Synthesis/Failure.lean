import LintAdapter.Proofs.Synthesis.Policy

namespace LintAdapter.Configuration

variable {files : Files.Tree} {repository : OsString} {request : Request}

structure NeedsRegistry (files : Files.Tree) (repository : OsString) (request : Request) : Prop where
  isDirectory : files.isDirectory repository
  unselected : ∀ patterns, ¬ request.Selects patterns
  missing : ∀ name ∈ repositoryNames, ¬ files.isFile (Files.Path.join repository name)

theorem repositoryFile?_eq_none_iff (files : Files.Tree) (repository : OsString) :
    repositoryFile? files repository = none ↔
      ∀ name ∈ repositoryNames, ¬ files.isFile (Files.Path.join repository name) := by
  rw [repositoryFile?]
  exact List.find?_eq_none

theorem create_of_not_isDirectory (notDirectory : ¬ files.isDirectory repository)
    (registry : Registry) (settings : Settings) :
    create files repository request registry settings =
      .error (.repositoryNotFound repository) := by
  rw [create, if_neg notDirectory]

theorem create_of_needsRegistry (needs : NeedsRegistry files repository request)
    (registry : Registry) (settings : Settings) :
    (∀ failure, registry = .error failure →
      create files repository request registry settings = .error (.registry failure)) ∧
    ∀ entries, registry = .ok entries →
      ∃ made, create files repository request registry settings = .ok made := by
  have own := (repositoryFile?_eq_none_iff files repository).2 needs.missing
  constructor
  · rintro failure rfl
    have selection := request.selection?_eq_none_iff.2 needs.unselected
    rw [create, if_pos needs.isDirectory, own, selection]
    rfl
  · rintro entries rfl
    exact ⟨_, create_of_recommends needs.isDirectory own needs.unselected entries settings⟩

theorem create_of_not_needsRegistry (isDirectory : files.isDirectory repository)
    (needless : ¬ NeedsRegistry files repository request) (settings : Settings) :
    ∃ made, (∀ registry, create files repository request registry settings = .ok made) ∧
      made.1.origin ≠ .recommended := by
  cases selection : request.selection? with
  | some patterns =>
      have selects := (request.selection?_eq_some_iff patterns).1 selection
      exact ⟨_, fun registry => create_of_selects isDirectory selects registry settings, nofun⟩
  | none =>
      have unselected := request.selection?_eq_none_iff.1 selection
      cases own : repositoryFile? files repository with
      | none =>
          have missing := (repositoryFile?_eq_none_iff files repository).1 own
          exact absurd ⟨isDirectory, unselected, missing⟩ needless
      | some name =>
          refine ⟨(⟨repository, ignores settings.exclude, some name, none, .delegated⟩,
            filesFor request), fun registry => ?_, nofun⟩
          rw [create, if_pos isDirectory, own, selection]
          rfl

theorem exists_create_eq_ok_iff (registry : Registry) (settings : Settings) :
    (∃ made, create files repository request registry settings = .ok made) ↔
      files.isDirectory repository ∧
        (NeedsRegistry files repository request → ∃ entries, registry = .ok entries) := by
  by_cases isDirectory : files.isDirectory repository
  · by_cases needs : NeedsRegistry files repository request
    · obtain ⟨failed, succeeded⟩ := create_of_needsRegistry needs registry settings
      cases registry with
      | error failure => simp [failed failure rfl, needs]
      | ok entries => exact iff_of_true (succeeded entries rfl) ⟨isDirectory, fun _ => ⟨_, rfl⟩⟩
    · obtain ⟨made, created, -⟩ := create_of_not_needsRegistry isDirectory needs settings
      exact iff_of_true ⟨made, created registry⟩ ⟨isDirectory, fun there => absurd there needs⟩
  · simp [create_of_not_isDirectory isDirectory, isDirectory]

end LintAdapter.Configuration
