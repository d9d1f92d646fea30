import LintAdapter.Cli.Arguments
import LintAdapter.Proofs.Files.LongPath

namespace LintAdapter.Cli

theorem readLevel_operand {specs : List OptionSpec} {accepts : OsString → Bool} {given : Given}
    {argument : OsString} (none : given.operands = [])
    (notOption : looksLikeOption argument = false) (accepted : accepts argument) (fuel : Nat) :
    readLevel specs [accepts] false (fuel + 2) given [argument] =
      .ok ({ given with operands := [argument] }, []) := by
  have notEnd : argument ≠ "--" := by
    rintro rfl
    exact Bool.false_ne_true notOption.symm
  have taken : takeOperand [accepts] given argument =
      .ok { given with operands := [argument] } := by
    rw [takeOperand, none]
    exact if_pos accepted
  rw [readLevel, if_neg notEnd, notOption, if_neg Bool.false_ne_true, if_neg Bool.false_ne_true,
    taken]
  rfl

section

variable {repository : OsString} (notEmpty : repository ≠ "")
  (notOption : looksLikeOption repository = false)

include notEmpty notOption

theorem readLevel_repository (given : Given) (none : given.operands = []) (fuel : Nat) :
    readLevel (globalOptions ++ configOptions) [isPath] false (fuel + 2) given [repository] =
      .ok ({ given with operands := [repository] }, []) := by
  refine readLevel_operand none notOption ?_ fuel
  rw [isPath, Bool.not_eq_true', ← Bool.not_eq_true, OsString.isEmpty_iff]
  exact notEmpty

theorem read_config :
    read ["config", repository] = .ok ⟨false, none, .config repository none none false⟩ := by
  have level : readCommand configOptions [isPath] [repository] = .ok ⟨[], [repository]⟩ :=
    congrArg (Prod.fst <$> ·) (readLevel_repository notEmpty notOption .none rfl 0)
  have named : readNamed "config" [repository] =
      .ok (⟨[], [repository]⟩, .config repository none none false) := by
    rw [readNamed, if_pos rfl, level]
    rfl
  change (readNamed "config" [repository] >>= _) = _
  rw [named]
  rfl

theorem read_config_catalog :
    read ["config", "--catalog", "rules.json", repository] =
      .ok ⟨false, none, .config repository none (some "rules.json") false⟩ := by
  have level : readCommand configOptions [isPath] ["--catalog", "rules.json", repository] =
      .ok ⟨[("catalog", some "rules.json")], [repository]⟩ :=
    congrArg (Prod.fst <$> ·) (readLevel_repository notEmpty notOption
      ⟨[("catalog", some "rules.json")], []⟩ rfl 1)
  have named : readNamed "config" ["--catalog", "rules.json", repository] =
      .ok (⟨[("catalog", some "rules.json")], [repository]⟩,
        .config repository none (some "rules.json") false) := by
    rw [readNamed, if_pos rfl, level]
    rfl
  change (readNamed "config" ["--catalog", "rules.json", repository] >>= _) = _
  rw [named]
  rfl

end

theorem looksLikeOption_hereRepeated (count : Nat) :
    looksLikeOption (Files.hereRepeated count) = false := by
  cases count with
  | zero => rfl
  | succ count =>
      rw [Files.ofText_hereRepeated_succ]
      rfl

end LintAdapter.Cli
