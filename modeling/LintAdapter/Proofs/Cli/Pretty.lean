import LintAdapter.Proofs.Cli.Config
import LintAdapter.Proofs.Json.Spacing

namespace LintAdapter.Cli

open Json (Value withoutSpacing)

variable {world : World} {settings : Settings} {repository : OsString}
  {request catalog : Option OsString}

/-- Two outcomes that differ in the form of the options they print at most: the first prints them
compact, the second indented, each with a line feed after them. -/
inductive Outcome.DiffersInForm : Outcome → Outcome → Prop
  | printed (options : Configuration) (globs : List String) (log : List LogEntry)
      (files : Files.Tree) : DiffersInForm
        ⟨0, (configurationValue options globs).compact ++ "\n", log, none, files⟩
        ⟨0, (configurationValue options globs).pretty ++ "\n", log, none, files⟩
  | failed (outcome : Outcome) (code : outcome.exitCode ≠ 0) (silent : outcome.stdout = "") :
      DiffersInForm outcome outcome

theorem Outcome.DiffersInForm.stdout {compact indented : Outcome}
    (differs : compact.DiffersInForm indented) (succeeds : compact.exitCode = 0) :
    compact.stdout = withoutSpacing indented.stdout ++ "\n" := by
  cases differs with
  | printed options globs log files =>
      have nothing : withoutSpacing "\n" = "" := rfl
      show _ = withoutSpacing ((configurationValue options globs).pretty ++ "\n") ++ "\n"
      rw [Value.withoutSpacing_pretty_append, nothing, String.append_empty]
  | failed _ code => exact absurd succeeds code

def configOutcome (verbose pretty : Bool) :
    Except Report (Configuration × List String) × Progress → Outcome
  | (.ok made, after) =>
    match documentText made.1 made.2 pretty with
    | .ok text => ⟨0, after.stdout ++ (text ++ "\n"), (after.shown verbose).log, none, after.files⟩
    | .error message => failed (after.shown verbose) ⟨message, []⟩
  | (.error report, after) => failed (after.shown verbose) report

theorem runWith_config (verbose pretty : Bool) (settingsPath : Option OsString) (source : Source) :
    runWith world ⟨verbose, settingsPath, .config repository request catalog pretty⟩ source
        settings =
      configOutcome (verbose || settings.debug) pretty ((do
        Run.tell (narrateSource source)
        configuration world.files settings repository request catalog).results
          ⟨world.files, [], ""⟩) := by
  have ended : (do
      Run.tell (narrateSource source)
      runConfig world.files settings repository request catalog pretty) =
      ((do
        Run.tell (narrateSource source)
        configuration world.files settings repository request catalog) >>= fun made =>
          printConfiguration made.1 made.2 pretty) := by
    rw [runConfig, bind_assoc]
  rw [runWith]
  dsimp only [Command.run]
  rw [ended, Run.results_bind]
  rcases Run.results _ _ with ⟨report | made, after⟩
  · rfl
  · dsimp only [configOutcome]
    rw [printConfiguration]
    cases documentText made.1 made.2 pretty <;> rfl

theorem runWith_differsInForm (verbose : Bool) (settingsPath : Option OsString) (source : Source) :
    (runWith world ⟨verbose, settingsPath, .config repository request catalog false⟩ source
      settings).DiffersInForm
    (runWith world ⟨verbose, settingsPath, .config repository request catalog true⟩ source
      settings) := by
  have silent : ((do
      Run.tell (narrateSource source)
      configuration world.files settings repository request catalog).results
        ⟨world.files, [], ""⟩).2.stdout = "" :=
    (gives_configuration.after_tell (narrateSource source)).stdout ⟨world.files, [], ""⟩
  rw [runWith_config, runWith_config]
  generalize Run.results _ _ = ended at silent ⊢
  rcases ended with ⟨report | ⟨options, globs⟩, after⟩
  · exact .failed _ Nat.one_ne_zero silent
  · dsimp only at silent
    by_cases printable : options.isPrintable
    · simp only [configOutcome, documentText_of_isPrintable printable, silent, String.empty_append]
      exact .printed options globs _ _
    · simp only [configOutcome, documentText_of_not_isPrintable printable]
      exact .failed _ Nat.one_ne_zero silent

theorem program_differsInForm {arguments prettyArguments : List OsString} {verbose : Bool}
    {settingsPath : Option OsString}
    (reads : read arguments =
      .ok ⟨verbose, settingsPath, .config repository request catalog false⟩)
    (readsPretty : read prettyArguments =
      .ok ⟨verbose, settingsPath, .config repository request catalog true⟩) :
    (program world arguments).DiffersInForm (program world prettyArguments) := by
  have sameSource : settingsSource world
        ⟨verbose, settingsPath, .config repository request catalog true⟩ =
      settingsSource world ⟨verbose, settingsPath, .config repository request catalog false⟩ :=
    rfl
  simp only [program, reads, readsPretty, Invocation.run, sameSource]
  cases effectiveSettings world (settingsSource world
      ⟨verbose, settingsPath, .config repository request catalog false⟩) with
  | error refusal => exact .failed _ Nat.one_ne_zero rfl
  | ok settings => exact runWith_differsInForm verbose settingsPath _

theorem call_prints_one_document (world : World) (arguments prettyArguments : List OsString)
    (verbose : Bool) (settingsPath : Option OsString) (repository : OsString)
    (request catalog : Option OsString)
    (reads : read arguments =
      .ok ⟨verbose, settingsPath, .config repository request catalog false⟩)
    (readsPretty : read prettyArguments =
      .ok ⟨verbose, settingsPath, .config repository request catalog true⟩) :
    (∀ options globs, withoutSpacing (configurationValue options globs).pretty =
      (configurationValue options globs).compact) ∧
    (program world arguments).DiffersInForm (program world prettyArguments) ∧
    ((program world arguments).exitCode = 0 →
      (program world arguments).stdout =
        withoutSpacing (program world prettyArguments).stdout ++ "\n") := by
  have differs : (program world arguments).DiffersInForm (program world prettyArguments) :=
    program_differsInForm reads readsPretty
  exact ⟨fun options globs => Value.withoutSpacing_pretty _, differs, differs.stdout⟩

def quotedDirectory : Configuration := ⟨"my \"own\" files", [], none, some [], .recommended⟩

theorem call_prints_own_configuration :
    read ["config"] = .ok ⟨false, none, .config "." none none false⟩ ∧
    read ["config", "--pretty"] = .ok ⟨false, none, .config "." none none true⟩ ∧
    (program ownOnly ["config"]).exitCode = 0 ∧
    (program ownOnly ["config"]).stdout =
      withoutSpacing (program ownOnly ["config", "--pretty"]).stdout ++ "\n" ∧
    withoutSpacing (configurationValue quotedDirectory ["\\ \n"]).pretty =
      (configurationValue quotedDirectory ["\\ \n"]).compact := by
  have reads : read ["config"] = .ok ⟨false, none, .config "." none none false⟩ := by rfl
  have readsPretty : read ["config", "--pretty"] =
      .ok ⟨false, none, .config "." none none true⟩ := by rfl
  have succeeds : (program ownOnly ["config"]).exitCode = 0 := by rfl
  obtain ⟨sameDocument, -, stdout⟩ := call_prints_one_document ownOnly _ _ _ _ _ _ _ reads
    readsPretty
  exact ⟨reads, readsPretty, succeeds, stdout succeeds, sameDocument quotedDirectory _⟩

end LintAdapter.Cli
