import LintAdapter.Proofs.Json.Record
import LintAdapter.Request

namespace LintAdapter

open Json (Value Decoder)
open Json.Decoder (Reads Fills)
open Rule (Parameter)

def Pattern.Exact (pattern : Pattern) : Prop :=
  ∀ parameters, pattern.parameters = some parameters →
    ∀ parameter ∈ parameters, parameter.value.Exact

def Section.Exact (tool : Section) : Prop :=
  ∀ patterns, tool.patterns = some patterns → ∀ pattern ∈ patterns, pattern.Exact

def Request.Exact (request : Request) : Prop :=
  ∀ tools, request.tools = some tools → ∀ tool ∈ tools, tool.Exact

theorem Rule.Parameter.reads_toValue {parameter : Parameter} (exact : parameter.value.Exact) :
    Reads Decoder.parameter parameter.toValue parameter := by
  have name := Decoder.reads_text parameter.name
  have value := Decoder.reads_value exact
  refine Decoder.reads_record (by decide) ?_
  exact .fill (name.map _) <| .fill (value.map _) <| .done _

theorem Pattern.reads_toValue {pattern : Pattern} (exact : pattern.Exact) :
    Reads Decoder.pattern pattern.toValue pattern := by
  have id := Decoder.reads_text pattern.id
  have parameters (given : List Parameter) (there : pattern.parameters = some given) :
      Reads (.list .parameter) (.list (given.map (·.toValue))) given :=
    Decoder.reads_list fun parameter member =>
      Parameter.reads_toValue (exact given there parameter member)
  refine Decoder.reads_record (by decide) ?_
  rw [← List.append_nil (Value.optionalMember "parameters" _ _)]
  exact .fill (id.map _) <| .member pattern.parameters parameters nofun rfl <| .done _

theorem Section.reads_toValue {tool : Section} (exact : tool.Exact) :
    Reads Decoder.tool tool.toValue tool := by
  have name := Decoder.reads_text tool.name
  have patterns (given : List Pattern) (there : tool.patterns = some given) :
      Reads (.list .pattern) (.list (given.map (·.toValue))) given :=
    Decoder.reads_list fun pattern member =>
      Pattern.reads_toValue (exact given there pattern member)
  refine Decoder.reads_record (by decide) ?_
  rw [← List.append_nil (Value.optionalMember "patterns" _ _)]
  exact .fill (name.map _) <| .member tool.patterns patterns nofun rfl <| .done _

namespace Request

theorem reads_toValue {request : Request} (exact : request.Exact) :
    Reads Decoder.request request.toValue request := by
  have files (given : List String) (_ : request.files = some given) :
      Reads (.list .text) (.list (given.map .text)) given :=
    Decoder.reads_list fun file _ => Decoder.reads_text file
  have tools (given : List Section) (there : request.tools = some given) :
      Reads (.list .tool) (.list (given.map (·.toValue))) given :=
    Decoder.reads_list fun tool member => Section.reads_toValue (exact given there tool member)
  refine Decoder.reads_record (by decide) ?_
  rw [← List.append_nil (Value.optionalMember "tools" _ _)]
  exact .member request.files files nofun rfl <| .member request.tools tools nofun rfl <| .done _

/-- A request is read back as it was when lists and objects in it are nested up to 127 deep, and is
refused for its nesting otherwise. So what it selects is the same after reading it back. -/
theorem ofText_written_request (request : Request) (exact : request.Exact) :
    ofText request.toValue.compact =
      (if request.toValue.depth ≤ 127 then .ok request else .error .tooDeep) ∧
    ∀ reread, ofText request.toValue.compact = .ok reread →
      reread.selection? = request.selection? ∧
      reread.fileSelection? = request.fileSelection? ∧
      reread.selection?.map (·.map Pattern.setting) =
        request.selection?.map (·.map Pattern.setting) := by
  have read : ofText request.toValue.compact =
      (if request.toValue.depth ≤ 127 then .ok request else .error .tooDeep) :=
    Decoder.document_compact (reads_toValue exact)
  refine ⟨read, fun reread again => ?_⟩
  rw [read] at again
  split_ifs at again
  cases again
  exact ⟨rfl, rfl, rfl⟩

def nestedLists : Nat → Value
  | 0 => .list []
  | count + 1 => .list [nestedLists count]

theorem exact_nestedLists (count : Nat) : (nestedLists count).Exact := by
  induction count with
  | zero => exact .list nofun
  | succ count ih => exact .list fun item member => List.mem_singleton.1 member ▸ ih

theorem depth_nestedLists (count : Nat) : (nestedLists count).depth = count + 1 := by
  induction count with
  | zero => rfl
  | succ count ih => rw [nestedLists, Value.depth, Value.itemDepth, ih]; rfl

def deepRequest (count : Nat) : Request :=
  ⟨some [], some [⟨"eslint", some [
    ⟨"semi", some [⟨"options", .object [
      ("b", .number (.integer (-0x8000000000000000))), ("a", nestedLists count)]⟩]⟩,
    ⟨"curly", some []⟩, ⟨"eqeqeq", none⟩]⟩]⟩

theorem exact_deepRequest (count : Nat) : (deepRequest count).Exact := by
  have least : (Value.number (.integer (-0x8000000000000000))).Exact :=
    .integer (by decide) (by decide)
  simp only [deepRequest, Request.Exact, Section.Exact, Pattern.Exact, Option.some.injEq,
    forall_eq', List.forall_mem_cons, List.not_mem_nil, false_implies, implies_true, and_true,
    reduceCtorEq]
  refine .object (by simp) ?_
  simp [least, exact_nestedLists]

theorem depth_deepRequest (count : Nat) : (deepRequest count).toValue.depth = count + 9 := by
  simp [deepRequest, toValue, Section.toValue, Pattern.toValue, Parameter.toValue,
    Value.optionalMember, Value.depth, Value.memberDepth, Value.itemDepth, depth_nestedLists]

theorem ofText_deepRequest :
    ((deepRequest 118).Exact ∧ ofText (deepRequest 118).toValue.compact = .ok (deepRequest 118)) ∧
    ofText (deepRequest 119).toValue.compact = .error .tooDeep := by
  have deepest := (ofText_written_request _ (exact_deepRequest 118)).1
  have deeper := (ofText_written_request _ (exact_deepRequest 119)).1
  rw [depth_deepRequest] at deepest deeper
  exact ⟨⟨exact_deepRequest 118, deepest⟩, deeper⟩

end Request

end LintAdapter
