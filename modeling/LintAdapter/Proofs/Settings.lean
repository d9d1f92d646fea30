import LintAdapter.Settings
import Mathlib.Tactic.Common

namespace LintAdapter.Settings

variable {value : Option Toml.Value}

inductive FlagFrom : Option Toml.Value → Bool → Prop
  | absent : FlagFrom none false
  | given (flag : Bool) : FlagFrom (some (.bool flag)) flag

inductive CatalogFrom : Option Toml.Value → Option OsString → Prop
  | absent : CatalogFrom none none
  | given (path : String) : CatalogFrom (some (.string path)) (some (.ofText path))

inductive PatternsFrom : Option Toml.Value → List String → Prop
  | absent : PatternsFrom none []
  | given (patterns : List String) : PatternsFrom (some (.array (patterns.map .string))) patterns

/-- The patterns of the analyzer section. A section that is a list holds them first. -/
inductive ExcludeFrom : Option Toml.Value → List String → Prop
  | absent : ExcludeFrom none []
  | table {members : List (String × Toml.Value)} {patterns : List String}
      (listed : PatternsFrom (members.lookup "exclude") patterns) :
      ExcludeFrom (some (.table members)) patterns
  | emptyList : ExcludeFrom (some (.array [])) []
  | list (patterns : List String) (rest : List Toml.Value) :
      ExcludeFrom (some (.array (.array (patterns.map .string) :: rest))) patterns
  | date (written : String) : ExcludeFrom (some (.dateTime written)) []

structure Describes (members : List (String × Toml.Value)) (settings : Settings) : Prop where
  debug : FlagFrom (members.lookup "debug") settings.debug
  suggestions : FlagFrom (members.lookup "suggestions") settings.suggestions
  catalog : CatalogFrom (members.lookup "catalog") settings.catalog
  exclude : ExcludeFrom (members.lookup "analyzer") settings.exclude

theorem mapM_string?_eq_some_iff (items : List Toml.Value) (patterns : List String) :
    items.mapM string? = some patterns ↔ items = patterns.map .string := by
  induction items generalizing patterns with
  | nil => cases patterns <;> simp
  | cons item items ih =>
      rw [List.mapM_cons]
      cases item with
      | string pattern =>
          simp only [string?, Option.bind_eq_bind, Option.bind_some, Option.bind_eq_some_iff, ih,
            Option.pure_def, Option.some.injEq]
          cases patterns <;> simp [and_comm]
      | _ => cases patterns <;> simp [string?]

theorem strings?_eq_some_iff (value : Toml.Value) (patterns : List String) :
    strings? value = some patterns ↔ value = .array (patterns.map .string) := by
  cases value <;> simp [strings?, mapM_string?_eq_some_iff]

theorem member?_eq_some_iff {α : Type} (members : List (String × Toml.Value)) (name : String)
    (read? : Toml.Value → Option α) (default a : α) :
    member? members name read? default = some a ↔
      (members.lookup name = none ∧ default = a) ∨
        ∃ value, members.lookup name = some value ∧ read? value = some a := by
  rw [member?]
  cases members.lookup name <;> simp

theorem flagFrom_iff (flag : Bool) :
    FlagFrom value flag ↔
      (value = none ∧ false = flag) ∨ ∃ given, value = some given ∧ flag? given = some flag := by
  constructor
  · rintro (_ | _)
    · exact .inl ⟨rfl, rfl⟩
    · exact .inr ⟨_, rfl, rfl⟩
  · rintro (⟨rfl, rfl⟩ | ⟨given, rfl, read⟩)
    · exact .absent
    · cases given <;> cases read
      exact .given _

theorem catalogFrom_iff (catalog : Option OsString) :
    CatalogFrom value catalog ↔
      (value = none ∧ none = catalog) ∨
        ∃ given, value = some given ∧ some <$> path? given = some catalog := by
  constructor
  · rintro (_ | _)
    · exact .inl ⟨rfl, rfl⟩
    · exact .inr ⟨_, rfl, rfl⟩
  · rintro (⟨rfl, rfl⟩ | ⟨given, rfl, read⟩)
    · exact .absent
    · cases given <;> cases read
      exact .given _

theorem patternsFrom_iff (patterns : List String) :
    PatternsFrom value patterns ↔
      (value = none ∧ [] = patterns) ∨
        ∃ given, value = some given ∧ strings? given = some patterns := by
  simp only [strings?_eq_some_iff]
  constructor
  · rintro (_ | _)
    · exact .inl ⟨rfl, rfl⟩
    · exact .inr ⟨_, rfl, rfl⟩
  · rintro (⟨rfl, rfl⟩ | ⟨given, rfl, rfl⟩)
    · exact .absent
    · exact .given patterns

theorem excludeFrom_iff (patterns : List String) :
    ExcludeFrom value patterns ↔
      (value = none ∧ [] = patterns) ∨
        ∃ given, value = some given ∧ exclude? given = some patterns := by
  constructor
  · rintro (_ | listed | _ | _ | _)
    · exact .inl ⟨rfl, rfl⟩
    · refine .inr ⟨_, rfl, ?_⟩
      rw [exclude?, member?_eq_some_iff]
      exact (patternsFrom_iff patterns).1 listed
    · exact .inr ⟨_, rfl, rfl⟩
    · exact .inr ⟨_, rfl, (strings?_eq_some_iff _ _).2 rfl⟩
    · exact .inr ⟨_, rfl, rfl⟩
  · rintro (⟨rfl, rfl⟩ | ⟨given, rfl, read⟩)
    · exact .absent
    · cases given with
      | table members =>
          rw [exclude?, member?_eq_some_iff] at read
          exact .table ((patternsFrom_iff patterns).2 read)
      | array items =>
          cases items with
          | nil =>
              cases read
              exact .emptyList
          | cons first rest =>
              obtain rfl := (strings?_eq_some_iff first patterns).1 read
              exact .list patterns rest
      | dateTime written =>
          cases read
          exact .date written
      | _ => cases read

theorem ofMembers?_eq_some_iff (members : List (String × Toml.Value)) (settings : Settings) :
    ofMembers? members = some settings ↔ Describes members settings := by
  simp only [ofMembers?, Option.bind_eq_bind, Option.bind_eq_some_iff, member?_eq_some_iff,
    ← flagFrom_iff, ← catalogFrom_iff, ← excludeFrom_iff, Option.pure_def, Option.some.injEq]
  constructor
  · rintro ⟨_, debug, _, suggestions, _, catalog, _, exclude, rfl⟩
    exact ⟨debug, suggestions, catalog, exclude⟩
  · rintro ⟨debug, suggestions, catalog, exclude⟩
    exact ⟨_, debug, _, suggestions, _, catalog, _, exclude, rfl⟩

theorem ofText_eq_ok_iff (text : String) (settings : Settings) :
    ofText text = .ok settings ↔
      ∃ members, Toml.parse? text = some members ∧ Describes members settings := by
  simp only [← ofMembers?_eq_some_iff]
  rw [ofText]
  cases Toml.parse? text with
  | none => simp
  | some members => cases read : ofMembers? members <;> simp [read]

end LintAdapter.Settings
