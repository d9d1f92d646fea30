import LintAdapter.Json.Printer
import LintAdapter.Proofs.Json.Members
import LintAdapter.Rule.Setting

namespace LintAdapter

open Json (Value)

namespace Json.Value

theorem chars_append_itemChars (first : Value) (rest : List Value) :
    first.chars ++ itemChars rest = [','].intercalate ((first :: rest).map chars) ++ [']'] := by
  induction rest generalizing first with
  | nil => simp [itemChars]
  | cons next rest ih =>
      rw [itemChars, List.cons_append, ih]
      simp only [List.map_cons, List.intercalate_cons_cons, List.append_assoc, List.cons_append,
        List.nil_append]

theorem compact_list (items : List Value) :
    (Value.list items).compact = "[" ++ ",".intercalate (items.map compact) ++ "]" := by
  have printed : (items.map compact).map String.toList = items.map chars := by
    simp [compact, Function.comp_def]
  rw [← String.toList_inj, String.toList_append, String.toList_append, String.toList_intercalate,
    printed, compact, String.toList_ofList]
  cases items with
  | nil => rfl
  | cons first rest =>
      rw [chars, List.cons_append, chars_append_itemChars]
      rfl

end Json.Value

namespace Rule

/-- The object's members are the named parameters: each name once, in the place where it first
stands, with the value that stands last under it. -/
structure HoldsNamed (parameters : List Parameter) (members : List (String × Value)) : Prop where
  names : members.map Prod.fst =
    ((parameters.map Parameter.name).filter (· != "unnamedParam")).eraseDups
  values : ∀ name value, (name, value) ∈ members ↔ name ≠ "unnamedParam" ∧
    ∃ before after, parameters = before ++ ⟨name, value⟩ :: after ∧
      ∀ later ∈ after, later.name ≠ name

def objectOption (members : List (String × Value)) : List Value :=
  if members = [] then [] else [.object members]

def positionalValues (parameters : List Parameter) : List Value :=
  (parameters.filter (·.name == "unnamedParam")).map Parameter.value

inductive Yields (parameters : List Parameter) : List Value → Prop
  | positional (noNamed : ∀ parameter ∈ parameters, parameter.name = "unnamedParam") :
      Yields parameters (positionalValues parameters)
  | named (someNamed : ∃ parameter ∈ parameters, parameter.name ≠ "unnamedParam")
      (members : List (String × Value)) (holds : HoldsNamed parameters members) :
      Yields parameters (positionalValues parameters ++ [.object members])

structure Reorders (parameters reordered : List Parameter) : Prop where
  positional : parameters.filter (·.name == "unnamedParam") =
    reordered.filter (·.name == "unnamedParam")
  named : parameters.filter (·.name != "unnamedParam") =
    reordered.filter (·.name != "unnamedParam")

def Parameter.member (parameter : Parameter) : String × Value := (parameter.name, parameter.value)

def namedMembers (parameters : List Parameter) : List (String × Value) :=
  (parameters.filter (·.name != "unnamedParam")).map Parameter.member

theorem namedMembers_eq_filter (parameters : List Parameter) :
    namedMembers parameters =
      (parameters.map Parameter.member).filter (·.1 != "unnamedParam") := by
  rw [List.filter_map]
  rfl

theorem merge_namedMembers_eq_nil_iff (parameters : List Parameter) :
    Json.Members.merge (namedMembers parameters) = [] ↔
      ∀ parameter ∈ parameters, parameter.name = "unnamedParam" := by
  simp [Json.Members.merge_eq_nil_iff, namedMembers]

theorem split_map_member_iff (parameters : List Parameter) (name : String) (value : Value) :
    (∃ before after, parameters.map Parameter.member = before ++ (name, value) :: after ∧
        name ∉ after.map Prod.fst) ↔
      ∃ before after, parameters = before ++ ⟨name, value⟩ :: after ∧
        ∀ later ∈ after, later.name ≠ name := by
  constructor
  · rintro ⟨_, _, split, last⟩
    obtain ⟨before, rest, rfl, rfl, ends⟩ := List.map_eq_append_iff.1 split
    obtain ⟨⟨_, _⟩, after, rfl, same, rfl⟩ := List.map_eq_cons_iff.1 ends
    cases same
    exact ⟨before, after, rfl, by simpa [Parameter.member] using last⟩
  · rintro ⟨before, after, rfl, last⟩
    exact ⟨_, _, by rw [List.map_append, List.map_cons]; rfl,
      by simpa [Parameter.member] using last⟩

theorem holdsNamed_merge (parameters : List Parameter) :
    HoldsNamed parameters (Json.Members.merge (namedMembers parameters)) where
  names := by
    rw [Json.Members.map_fst_merge, List.filter_map, namedMembers, List.map_map]
    rfl
  values := by
    intro name value
    rw [Json.Members.mem_merge, namedMembers_eq_filter, lastValue?_filter (· != "unnamedParam"),
      ← split_map_member_iff, ← lastValue?_eq_some_iff]
    by_cases reserved : name = "unnamedParam" <;> simp [reserved]

theorem HoldsNamed.eq_merge {parameters : List Parameter} {members : List (String × Value)}
    (holds : HoldsNamed parameters members) :
    members = Json.Members.merge (namedMembers parameters) := by
  have merged := holdsNamed_merge parameters
  refine Json.Members.ext_of_names (Json.Members.nodup_merge _)
    (holds.names.trans merged.names.symm) ?_
  rintro ⟨name, value⟩ member
  exact (merged.values name value).2 ((holds.values name value).1 member)

theorem HoldsNamed.reserved_not_mem {parameters : List Parameter} {members : List (String × Value)}
    (holds : HoldsNamed parameters members) : "unnamedParam" ∉ members.map Prod.fst := by
  rw [holds.names, List.mem_eraseDups]
  simp

theorem objectOption_nil : objectOption [] = [] := rfl

theorem objectOption_of_ne_nil {members : List (String × Value)} (some : members ≠ []) :
    objectOption members = [.object members] :=
  if_neg some

theorem objectOption_eq_nil_iff (members : List (String × Value)) :
    objectOption members = [] ↔ members = [] := by
  cases members <;> simp [objectOption]

theorem optionsOf_eq (parameters : List Parameter) :
    Setting.optionsOf parameters = positionalValues parameters ++
      objectOption (Json.Members.merge (namedMembers parameters)) := by
  change (if (namedMembers parameters).isEmpty then positionalValues parameters else _) = _
  rw [objectOption]
  -- Whether there is an object is decided before the names are merged.
  simp only [List.isEmpty_iff, Json.Members.merge_eq_nil_iff]
  split_ifs
  · rw [List.append_nil]
  · rfl

theorem yields_iff (parameters : List Parameter) (options : List Value) :
    Yields parameters options ↔ options = Setting.optionsOf parameters := by
  have none := merge_namedMembers_eq_nil_iff parameters
  have some : Json.Members.merge (namedMembers parameters) ≠ [] ↔
      ∃ parameter ∈ parameters, parameter.name ≠ "unnamedParam" := by
    simp [none]
  rw [optionsOf_eq]
  constructor
  · rintro (noNamed | ⟨someNamed, members, holds⟩)
    · rw [none.2 noNamed, objectOption_nil, List.append_nil]
    · rw [objectOption_of_ne_nil (some.2 someNamed), holds.eq_merge]
  · rintro rfl
    by_cases noNamed : Json.Members.merge (namedMembers parameters) = []
    · rw [noNamed, objectOption_nil, List.append_nil]
      exact .positional (none.1 noNamed)
    · rw [objectOption_of_ne_nil noNamed]
      exact .named (some.1 noNamed) _ (holdsNamed_merge parameters)

theorem Reorders.optionsOf_eq {parameters reordered : List Parameter}
    (reorders : Reorders parameters reordered) :
    Setting.optionsOf reordered = Setting.optionsOf parameters := by
  rw [Rule.optionsOf_eq, Rule.optionsOf_eq, positionalValues, positionalValues, namedMembers,
    namedMembers, reorders.positional, reorders.named]

/-- The options are those that stand for the parameters, and the setting is printed as a list of the
severity and them. The order between positional and named parameters changes nothing that is
printed. -/
theorem ofParameters_yields_options (parameters : List Parameter) :
    ∃ options, Setting.ofParameters (some parameters) = .withOptions options ∧
      (∀ other, Yields parameters other ↔ other = options) ∧
      (Setting.ofParameters (some parameters)).toValue.compact =
        "[" ++ ",".intercalate ("\"error\"" :: options.map (·.compact)) ++ "]" ∧
      (∀ members, HoldsNamed parameters members → "unnamedParam" ∉ members.map Prod.fst) ∧
      ∀ reordered, Reorders parameters reordered →
        (Setting.ofParameters (some reordered)).toValue.compact =
          (Setting.ofParameters (some parameters)).toValue.compact := by
  refine ⟨_, rfl, yields_iff parameters, ?_, fun _ holds => holds.reserved_not_mem, ?_⟩
  · rw [Setting.ofParameters, Setting.toValue, Json.Value.compact_list]
    rfl
  · intro reordered reorders
    rw [Setting.ofParameters, Setting.ofParameters, reorders.optionsOf_eq]

def interleaved : List Parameter :=
  [⟨"max", .text "1"⟩, .unnamed (.text "always"), ⟨"skip", .bool true⟩, ⟨"max", .null⟩]

def positionalFirst : List Parameter :=
  [.unnamed (.text "always"), ⟨"max", .text "1"⟩, ⟨"skip", .bool true⟩, ⟨"max", .null⟩]

theorem ofParameters_interleaved :
    Reorders interleaved positionalFirst ∧
      (Setting.ofParameters (some interleaved)).toValue.compact =
        "[\"error\",\"always\",\x7b\"max\":null,\"skip\":true\x7d]" ∧
      (Setting.ofParameters (some positionalFirst)).toValue.compact =
        "[\"error\",\"always\",\x7b\"max\":null,\"skip\":true\x7d]" := by
  have reorders : Reorders interleaved positionalFirst := ⟨rfl, rfl⟩
  have printed : (Setting.ofParameters (some interleaved)).toValue.compact =
      "[\"error\",\"always\",\x7b\"max\":null,\"skip\":true\x7d]" := by
    decide
  obtain ⟨_, _, _, _, _, again⟩ := ofParameters_yields_options interleaved
  exact ⟨reorders, printed, (again positionalFirst reorders).trans printed⟩

end Rule

end LintAdapter
