import LintAdapter.Proofs.Json.Unique
import LintAdapter.Proofs.OsString
import LintAdapter.Synthesis.Configuration
import Mathlib.Data.List.Basic

namespace LintAdapter

open Json (Value)
open Rule (Setting)

theorem Json.Value.optionalMember_inj {α : Type} {name : String} {write : α → Value}
    (encode : Function.Injective write) {option other : Option α}
    (same : Value.optionalMember name write option = Value.optionalMember name write other) :
    option = other := by
  cases option with
  | none =>
      cases other with
      | none => rfl
      | some b => exact nomatch same
  | some a =>
      cases other with
      | none => exact nomatch same
      | some b => rw [encode (Prod.mk.inj (List.cons.inj same).1).2]

theorem Json.Value.integral_optionalMember {α : Type} {name : String} {write : α → Value}
    {option : Option α} (whole : ∀ a, option = some a → (write a).Integral) :
    ∀ member ∈ Value.optionalMember name write option, member.2.Integral := by
  cases option with
  | none => exact List.forall_mem_nil _
  | some a => exact List.forall_mem_singleton.2 (whole a rfl)

namespace Rule.Setting

theorem toValue_inj {setting other : Setting} (same : setting.toValue = other.toValue) :
    setting = other := by
  cases setting <;> cases other <;> simp_all [toValue]

theorem integral_toValue {setting : Setting}
    (whole : ∀ option ∈ setting.options, option.Integral) : setting.toValue.Integral := by
  cases setting with
  | enabled => exact .text severity
  | withOptions options => exact .list (List.forall_mem_cons.2 ⟨.text severity, whole⟩)

end Rule.Setting

namespace RuleSettings

def HasWholeOptions (rules : RuleSettings) : Prop :=
  ∀ rule ∈ rules, ∀ option ∈ rule.2.options, option.Integral

theorem toValue_inj {rules others : RuleSettings} (same : rules.toValue = others.toValue) :
    rules = others := by
  have encode : Function.Injective fun rule : String × Setting => (rule.1, rule.2.toValue) := by
    rintro ⟨id, setting⟩ ⟨other, held⟩ equal
    obtain ⟨ids, values⟩ := Prod.mk.inj equal
    exact Prod.ext ids (Setting.toValue_inj values)
  exact List.map_injective_iff.2 encode (Value.object.inj same)

theorem integral_toValue {rules : RuleSettings} (whole : HasWholeOptions rules) :
    rules.toValue.Integral := by
  refine .object fun member written => ?_
  obtain ⟨rule, inRules, rfl⟩ := List.mem_map.1 written
  exact Setting.integral_toValue (whole rule inRules)

end RuleSettings

namespace Block

theorem integral_globs (globs : List String) : (Value.list (globs.map .text)).Integral := by
  refine .list fun item written => ?_
  obtain ⟨glob, -, rfl⟩ := List.mem_map.1 written
  exact .text glob

theorem globs_inj {globs others : List String}
    (same : Value.list (globs.map .text) = Value.list (others.map .text)) : globs = others := by
  have encode : Function.Injective Value.text := fun _ _ => Value.text.inj
  exact List.map_injective_iff.2 encode (Value.list.inj same)

theorem toValue_inj {block other : Block} (same : block.toValue = other.toValue) :
    block = other := by
  -- The names of the members tell the parser settings, the globs and the rules from each other.
  rcases block with _ | ⟨_ | files, _ | ⟨rule, rules⟩⟩ <;>
    rcases other with _ | ⟨_ | otherFiles, _ | ⟨otherRule, otherRules⟩⟩ <;>
    simp only [toValue, Value.optionalMember, Value.object.injEq, List.isEmpty_nil,
      List.isEmpty_cons, Bool.false_eq_true, ↓reduceIte, List.nil_append, List.cons_append,
      List.append_nil, List.cons.injEq, Prod.mk.injEq, reduceCtorEq, String.reduceEq, false_and,
      true_and, and_true, and_false] at same ⊢
  · rw [RuleSettings.toValue_inj same]
  · rw [globs_inj same]
  · rw [globs_inj same.1, RuleSettings.toValue_inj same.2]

theorem integral_parserSettings : parserSettings.Integral := by
  have features : (Value.object [("jsx", .bool true)]).Integral :=
    .object (List.forall_mem_singleton.2 (.bool true))
  have options : (Value.object [("ecmaFeatures", .object [("jsx", .bool true)])]).Integral :=
    .object (List.forall_mem_singleton.2 features)
  exact .object <| List.forall_mem_cons.2 ⟨.text _, List.forall_mem_cons.2
    ⟨.text _, List.forall_mem_singleton.2 options⟩⟩

theorem integral_toValue {block : Block} (whole : block.enabled.HasWholeOptions) :
    block.toValue.Integral := by
  cases block with
  | base => exact .object (List.forall_mem_singleton.2 integral_parserSettings)
  | rules files settings =>
      refine .object (List.forall_mem_append.2 ⟨?_, ?_⟩)
      · exact Value.integral_optionalMember fun globs _ => integral_globs globs
      · split_ifs with none
        · exact List.forall_mem_nil _
        · exact List.forall_mem_singleton.2 (RuleSettings.integral_toValue whole)

end Block

namespace Configuration

structure SamePrinted (first second : Configuration) : Prop where
  directory : first.directory = second.directory
  ignorePatterns : first.ignorePatterns = second.ignorePatterns
  repositoryFile : first.repositoryFile = second.repositoryFile
  blocks : first.blocks = second.blocks

theorem overrideValue_inj {name other : Option String}
    (same : overrideValue name = overrideValue other) : name = other := by
  cases name <;> cases other <;> simp_all [overrideValue]

theorem integral_overrideValue (name : Option String) : (overrideValue name).Integral := by
  cases name with
  | none => exact .bool true
  | some name => exact .text name

theorem toValue_inj {first second : Configuration} (firstText : first.isPrintable)
    (secondText : second.isPrintable) (same : first.toValue = second.toValue) :
    first.SamePrinted second := by
  simp only [toValue, List.cons_append, List.nil_append, Value.object.injEq, List.cons.injEq,
    Prod.mk.injEq, true_and] at same
  obtain ⟨directory, ignores, override, blocks⟩ := same
  have encode : Function.Injective fun blocks : List Block => Value.list (blocks.map (·.toValue)) :=
    fun _ _ equal =>
      List.map_injective_iff.2 (fun _ _ => Block.toValue_inj) (Value.list.inj equal)
  have directory : first.directory = second.directory := by
    rw [OsString.eq_ofText_display firstText, Value.text.inj directory,
      ← OsString.eq_ofText_display secondText]
  exact ⟨directory, Block.globs_inj ignores, overrideValue_inj override,
    Value.optionalMember_inj encode blocks⟩

theorem integral_toValue {configuration : Configuration}
    (whole : configuration.rules.HasWholeOptions) : configuration.toValue.Integral := by
  have blocks (given : List Block) (present : configuration.blocks = some given) :
      (Value.list (given.map (·.toValue))).Integral := by
    refine .list fun item written => ?_
    obtain ⟨block, inGiven, rfl⟩ := List.mem_map.1 written
    refine Block.integral_toValue fun rule enabled => whole rule ?_
    rw [rules, present]
    exact List.mem_flatMap.2 ⟨block, inGiven, enabled⟩
  refine .object (List.forall_mem_append.2 ⟨?_, Value.integral_optionalMember blocks⟩)
  simp only [List.forall_mem_cons]
  exact ⟨.text _, .bool _, Block.integral_globs _, .bool _, .bool _, integral_overrideValue _,
    List.forall_mem_nil _⟩

/-- Two configurations are printed alike just when they differ in their origin at most, and so are
two settings of rules and two choices of the repository's configuration just when they are the
same. -/
theorem compact_eq_iff_samePrinted (first second : Configuration)
    (firstText : first.isPrintable) (secondText : second.isPrintable)
    (firstWhole : first.rules.HasWholeOptions) (secondWhole : second.rules.HasWholeOptions) :
    (first.toValue.compact = second.toValue.compact ↔ first.SamePrinted second) ∧
    (∀ rule ∈ first.rules, ∀ other ∈ second.rules,
      (rule.2.toValue.compact = other.2.toValue.compact ↔ rule.2 = other.2)) ∧
    ∀ name other, (overrideValue name).compact = (overrideValue other).compact ↔ name = other := by
  refine ⟨?_, fun rule inFirst other inSecond => ?_, fun name other => ?_⟩
  · rw [Value.compact_eq_compact_iff (integral_toValue firstWhole) (integral_toValue secondWhole)]
    refine ⟨toValue_inj firstText secondText, fun same => ?_⟩
    rw [toValue, toValue, same.directory, same.ignorePatterns, same.repositoryFile, same.blocks]
  · rw [Value.compact_eq_compact_iff (Setting.integral_toValue (firstWhole rule inFirst))
      (Setting.integral_toValue (secondWhole other inSecond))]
    exact ⟨Setting.toValue_inj, congrArg Setting.toValue⟩
  · rw [Value.compact_eq_compact_iff (integral_overrideValue name) (integral_overrideValue other)]
    exact ⟨overrideValue_inj, congrArg overrideValue⟩

def enablingSemi (setting : Setting) : Configuration :=
  ⟨".", builtInIgnores, none, some [.base, .rules none [("semi", setting)]], .selection⟩

theorem compact_enablingSemi_ne :
    (enablingSemi .enabled).isPrintable ∧ (enablingSemi (.withOptions [])).isPrintable ∧
    (enablingSemi .enabled).rules.HasWholeOptions ∧
    (enablingSemi (.withOptions [])).rules.HasWholeOptions ∧
    (enablingSemi .enabled).toValue.compact ≠ (enablingSemi (.withOptions [])).toValue.compact := by
  have first : (enablingSemi .enabled).rules.HasWholeOptions :=
    List.forall_mem_singleton.2 (List.forall_mem_nil _)
  have second : (enablingSemi (.withOptions [])).rules.HasWholeOptions :=
    List.forall_mem_singleton.2 (List.forall_mem_nil _)
  have text (setting : Setting) : (enablingSemi setting).isPrintable := OsString.isText_ofText "."
  refine ⟨text _, text _, first, second, fun alike => ?_⟩
  have same :=
    ((compact_eq_iff_samePrinted _ _ (text _) (text _) first second).1.1 alike).blocks
  simp [enablingSemi] at same

end Configuration

end LintAdapter
