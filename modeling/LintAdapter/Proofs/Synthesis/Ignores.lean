import LintAdapter.Proofs.Distinct
import LintAdapter.Proofs.Synthesis.Policy

namespace LintAdapter.Configuration

open Json (Value)

theorem nodup_builtInIgnores : builtInIgnores.Nodup := by decide

theorem ignores_eq_eraseDups (exclude : List String) :
    ignores exclude = (builtInIgnores ++ exclude).eraseDups := by
  rw [← foldl_add_new, eraseDups_of_nodup nodup_builtInIgnores, ignores]

theorem ignores_eq_append (exclude : List String) :
    ignores exclude =
      builtInIgnores ++ (exclude.filter fun pattern => pattern ∉ builtInIgnores).eraseDups := by
  rw [ignores_eq_eraseDups, List.eraseDups_append, eraseDups_of_nodup nodup_builtInIgnores]
  simp only [List.removeAll, List.elem_eq_mem, decide_not]

theorem nodup_ignores (exclude : List String) : (ignores exclude).Nodup := by
  rw [ignores_eq_eraseDups]
  exact nodup_eraseDups _

theorem mem_ignores_iff (exclude : List String) (pattern : String) :
    pattern ∈ ignores exclude ↔ pattern ∈ builtInIgnores ∨ pattern ∈ exclude := by
  rw [ignores_eq_eraseDups, List.mem_eraseDups, List.mem_append]

theorem ignores_ignores (exclude : List String) : ignores (ignores exclude) = ignores exclude := by
  have builtIn : (builtInIgnores.filter fun pattern => pattern ∉ builtInIgnores) = [] := by
    simp
  have further : ((ignores exclude).filter fun pattern => pattern ∉ builtInIgnores) =
      (exclude.filter fun pattern => pattern ∉ builtInIgnores).eraseDups := by
    rw [ignores_eq_eraseDups, ← eraseDups_filter, List.filter_append, builtIn, List.nil_append]
  rw [ignores_eq_append (ignores exclude), further, eraseDups_of_nodup (nodup_eraseDups _),
    ← ignores_eq_append]

theorem ofDirectory_exclude (repository : OsString) (own : Option String)
    (exclude other : List String) (selection : Option (List Pattern)) (registry : Registry) :
    ofDirectory repository own exclude selection registry =
      (ofDirectory repository own other selection registry).map
        fun configuration => { configuration with ignorePatterns := ignores exclude } := by
  cases selection with
  | some patterns => rfl
  | none =>
      cases own with
      | some name => rfl
      | none => cases registry <;> rfl

theorem create_exclude (files : Files.Tree) (repository : OsString) (request : Request)
    (registry : Registry) (settings : Settings) (exclude : List String) :
    create files repository request registry { settings with exclude } =
      (create files repository request registry settings).map
        fun made => ({ made.1 with ignorePatterns := ignores exclude }, made.2) := by
  rw [create, create]
  split_ifs with isDirectory
  · rw [ofDirectory_exclude _ _ exclude settings.exclude]
    cases ofDirectory repository (repositoryFile? files repository) settings.exclude
      request.selection? registry <;> rfl
  · rfl

theorem get?_ignorePatterns (configuration : Configuration) :
    configuration.toValue.get? "ignorePatterns" =
      some (.list (configuration.ignorePatterns.map .text)) := by
  simp [toValue, Value.get?, lookup_cons_eq_ite]

theorem create_ignores_each_once (files : Files.Tree) (repository : OsString) (request : Request)
    (registry : Registry) (settings : Settings) (configuration : Configuration)
    (globs : List String)
    (created : create files repository request registry settings = .ok (configuration, globs)) :
    configuration.ignorePatterns = builtInIgnores ++
      (settings.exclude.filter fun pattern => pattern ∉ builtInIgnores).eraseDups ∧
    configuration.ignorePatterns.Nodup ∧
    (∀ pattern, pattern ∈ configuration.ignorePatterns ↔
      pattern ∈ builtInIgnores ∨ pattern ∈ settings.exclude) ∧
    configuration.toValue.get? "ignorePatterns" =
      some (.list (configuration.ignorePatterns.map .text)) ∧
    create files repository request registry
      { settings with exclude := configuration.ignorePatterns } = .ok (configuration, globs) := by
  obtain ⟨-, -, made⟩ := (create_eq_ok_iff _ _ _ _ _ _ _).1 created
  obtain ⟨⟨-, ignored, -⟩, -⟩ := ofDirectory_cases made
  refine ⟨?_, ?_, ?_, get?_ignorePatterns configuration, ?_⟩
  · rw [ignored, ignores_eq_append]
  · rw [ignored]
    exact nodup_ignores settings.exclude
  · intro pattern
    rw [ignored, mem_ignores_iff]
  · rw [create_exclude, created, ignored, ignores_ignores, ← ignored]
    rfl

def repeatedExcludes : Settings :=
  { Settings.default with exclude := ["gen/**", "dist/**", "*.min.js", "gen/**"] }

theorem create_ignores_repeatedExcludes :
    ∃ configuration globs,
      create (.after ["work"] []) "." .empty (.ok []) repeatedExcludes = .ok (configuration, globs) ∧
      configuration.ignorePatterns = builtInIgnores ++ ["gen/**", "*.min.js"] ∧
      create (.after ["work"] []) "." .empty (.ok [])
          { repeatedExcludes with exclude := configuration.ignorePatterns } =
        .ok (configuration, globs) := by
  refine ⟨_, _, rfl, ?_⟩
  obtain ⟨patterns, -, -, -, again⟩ :=
    create_ignores_each_once (.after ["work"] []) "." .empty (.ok []) repeatedExcludes _ _ rfl
  exact ⟨patterns, again⟩

end LintAdapter.Configuration
