import LintAdapter.Cli.Session

namespace LintAdapter.Cli

variable {α β ε : Type}

theorem toOption_eq_some_iff (result : Except ε α) (a : α) :
    result.toOption = some a ↔ result = .ok a := by
  cases result <;> simp [Except.toOption]

namespace Run

/-- A run that ends with a result, none when it fails, after it has printed a text, whatever was
done before. -/
structure Ends (run : Run α) (result : Option α) (text : String) : Prop where
  result : ∀ progress, (run.results progress).1.toOption = result
  stdout : ∀ progress, (run.results progress).2.stdout = progress.stdout ++ text

def Gives (run : Run α) (result : Option α) : Prop := Ends run result ""

def Prints (run : Run Unit) (text : Option String) : Prop :=
  Ends run (text.map fun _ => ()) (text.getD "")

theorem gives_pure (a : α) : Gives (pure a) (some a) :=
  ⟨fun _ => rfl, fun _ => String.append_empty.symm⟩

theorem gives_tell (entries : List LogEntry) : Gives (tell entries) (some ()) :=
  ⟨fun _ => rfl, fun _ => String.append_empty.symm⟩

theorem gives_fail (message : String) (causes : List String) :
    Gives (fail message causes : Run α) none :=
  ⟨fun _ => rfl, fun _ => String.append_empty.symm⟩

theorem gives_need (message : String) (causes : ε → List String) (result : Except ε α) :
    Gives (need message causes result) result.toOption := by
  cases result with
  | error e => exact gives_fail message (causes e)
  | ok a => exact gives_pure a

theorem gives_need_of_ok (message : String) (causes : ε → List String) {result : Except ε α} {a : α}
    (ok : result = .ok a) : Gives (need message causes result) (some a) := by
  subst ok
  exact gives_pure a

theorem ends_print (text : String) : Ends (print text) (some ()) text :=
  ⟨fun _ => rfl, fun _ => rfl⟩

theorem results_bind (run : Run α) (next : α → Run β) (progress : Progress) :
    (run >>= next).results progress =
      match run.results progress with
      | (.ok a, after) => (next a).results after
      | (.error report, after) => (.error report, after) := by
  change (ExceptT.bindCont next (run.results progress).1) (run.results progress).2 = _
  rcases run.results progress with ⟨_ | _, after⟩ <;> rfl

theorem Ends.bind {run : Run α} {next : α → Run β} {a : α} {result : Option β}
    {first second : String} (ends : Ends run (some a) first) (rest : Ends (next a) result second) :
    Ends (run >>= next) result (first ++ second) := by
  have goesOn (progress : Progress) :
      (run >>= next).results progress = (next a).results (run.results progress).2 := by
    have gave := ends.result progress
    rw [results_bind]
    generalize run.results progress = ended at gave ⊢
    rcases ended with ⟨report | held, after⟩
    · cases gave
    · cases gave
      rfl
  refine ⟨fun progress => ?_, fun progress => ?_⟩
  · rw [goesOn, rest.result]
  · rw [goesOn, rest.stdout, ends.stdout, String.append_assoc]

theorem Ends.bind_of_fails {run : Run α} {text : String} (ends : Ends run none text)
    (next : α → Run β) : Ends (run >>= next) none text := by
  have stops (progress : Progress) : ∃ report, (run >>= next).results progress =
      (.error report, (run.results progress).2) := by
    have failed := ends.result progress
    rw [results_bind]
    generalize run.results progress = ended at failed ⊢
    rcases ended with ⟨report | a, after⟩
    · exact ⟨report, rfl⟩
    · cases failed
  refine ⟨fun progress => ?_, fun progress => ?_⟩
  · obtain ⟨report, stopped⟩ := stops progress
    rw [stopped]
    rfl
  · obtain ⟨report, stopped⟩ := stops progress
    rw [stopped, ends.stdout]

theorem Gives.goesOn {run : Run α} {a : α} (gives : Gives run (some a)) {next : α → Run β}
    {result : Option β} {text : String} (rest : Ends (next a) result text) :
    Ends (run >>= next) result text := by
  rw [← String.empty_append (s := text)]
  exact Ends.bind gives rest

theorem gives_bind {run : Run α} {next : α → Run β} {first : Option α} {second : α → Option β}
    (gives : Gives run first) (goesOn : ∀ a, first = some a → Gives (next a) (second a)) :
    Gives (run >>= next) (first.bind second) := by
  cases first with
  | none => exact Ends.bind_of_fails gives next
  | some a => exact Gives.goesOn gives (goesOn a rfl)

theorem Gives.prints {run : Run α} {next : α → Run Unit} {first : Option α} {text : α → Option String}
    (gives : Gives run first) (goesOn : ∀ a, first = some a → Prints (next a) (text a)) :
    Prints (run >>= next) (first.bind text) := by
  cases first with
  | none => exact Ends.bind_of_fails gives next
  | some a => exact gives.goesOn (goesOn a rfl)

theorem Gives.map {run : Run α} {result : Option α} (gives : Gives run result) (f : α → β) :
    Gives (run >>= fun a => pure (f a)) (result.map f) := by
  rw [Option.map_eq_bind]
  exact gives_bind gives fun a _ => gives_pure (f a)

theorem Gives.keeps {run : Run α} {result : Option α} (gives : Gives run result) {next : α → Run α}
    (keeps : ∀ a, Gives (next a) (some a)) : Gives (run >>= next) result := by
  rw [← Option.bind_fun_some result]
  exact gives_bind gives fun a _ => keeps a

theorem Ends.after_tell {run : Run α} {result : Option α} {text : String}
    (ends : Ends run result text) (entries : List LogEntry) :
    Ends (tell entries >>= fun _ => run) result text :=
  (gives_tell entries).goesOn ends

theorem prints_print (text : String) : Prints (print text) (some text) := ends_print text

theorem prints_forM (items : List α) (text : α → String) :
    Prints (items.forM fun item => print (text item))
      (some (String.join (items.map text))) := by
  induction items with
  | nil => exact gives_pure ()
  | cons item rest ih =>
      rw [List.map_cons, String.join_cons]
      exact (ends_print (text item)).bind ih

def LeavesFiles (run : Run α) : Prop :=
  ∀ progress files, run.results { progress with files } =
    ((run.results progress).1, { (run.results progress).2 with files })

theorem leavesFiles_pure (a : α) : LeavesFiles (pure a) := fun _ _ => rfl

theorem leavesFiles_tell (entries : List LogEntry) : LeavesFiles (tell entries) := fun _ _ => rfl

theorem leavesFiles_print (text : String) : LeavesFiles (print text) := fun _ _ => rfl

theorem leavesFiles_need (message : String) (causes : ε → List String) (result : Except ε α) :
    LeavesFiles (need message causes result) := by
  cases result <;> exact fun _ _ => rfl

theorem LeavesFiles.bind {run : Run α} {next : α → Run β} (leaves : LeavesFiles run)
    (rest : ∀ a, LeavesFiles (next a)) : LeavesFiles (run >>= next) := by
  intro progress files
  rw [results_bind, results_bind, leaves]
  rcases run.results progress with ⟨report | a, after⟩
  · rfl
  · exact rest a after files

end Run

structure Outcome.Prints (outcome : Outcome) (result : Option String) : Prop where
  exitCode : outcome.exitCode = if result.isSome then 0 else 1
  stdout : outcome.stdout = result.getD ""

theorem Outcome.Prints.succeeds_iff {outcome : Outcome} {result : Option String}
    (prints : outcome.Prints result) : outcome.exitCode = 0 ↔ ∃ text, result = some text := by
  rw [prints.exitCode]
  cases result <;> simp

theorem Outcome.Prints.silent {outcome : Outcome} {result : Option String}
    (prints : outcome.Prints result) (fails : outcome.exitCode ≠ 0) : outcome.stdout = "" := by
  rw [prints.exitCode] at fails
  rw [prints.stdout]
  cases result with
  | none => rfl
  | some text => exact absurd rfl fails

theorem runWith_prints (world : World) (invocation : Invocation) (source : Source)
    (settings : Settings) {result : Option String}
    (prints : Run.Prints (invocation.command.run world settings) result) :
    (runWith world invocation source settings).Prints result := by
  have told := prints.after_tell (narrateSource source)
  have ended := told.result ⟨world.files, [], ""⟩
  have written := told.stdout ⟨world.files, [], ""⟩
  rw [runWith]
  generalize Run.results _ _ = done at ended written ⊢
  rcases done with ⟨report | ⟨⟩, progress⟩
  · cases result with
    | none => exact ⟨rfl, written⟩
    | some text => cases ended
  · cases result with
    | none => cases ended
    | some text => exact ⟨rfl, written.trans String.empty_append⟩

section

variable {world : World} {arguments : List OsString} {invocation : Invocation}
  (reads : read arguments = .ok invocation)

include reads

theorem program_eq_runWith {settings : Settings}
    (loads : effectiveSettings world (settingsSource world invocation) = .ok settings) :
    program world arguments = runWith world invocation (settingsSource world invocation) settings := by
  rw [program, reads]
  change invocation.run world = _
  rw [Invocation.run, loads]

theorem program_prints {result : Settings → Option String}
    (prints : ∀ settings, Run.Prints (invocation.command.run world settings) (result settings)) :
    (program world arguments).Prints
      ((effectiveSettings world (settingsSource world invocation)).toOption.bind result) := by
  cases loads : effectiveSettings world (settingsSource world invocation) with
  | error refusal =>
      rw [program, reads]
      change Outcome.Prints (invocation.run world) none
      rw [Invocation.run, loads]
      exact ⟨rfl, rfl⟩
  | ok settings =>
      rw [program_eq_runWith reads loads]
      exact runWith_prints world invocation _ settings (prints settings)

end

end LintAdapter.Cli
