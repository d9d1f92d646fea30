import LintAdapter.Finding
import LintAdapter.Proofs.Json.Reading

namespace LintAdapter

open Json (Value Decoder)

theorem natCast_toNat_lt (n : UInt64) : (n.toNat : Int) < 0x10000000000000000 := by
  have fits := n.toNat_lt
  omega

theorem count?_ofNat (n : UInt64) : count? (.ofNat n.toNat) = some n := by
  have same : n.toNat.toUInt64 = n := UInt64.ofNat_toNat
  rw [Value.ofNat, count?, if_pos ⟨Int.natCast_nonneg _, natCast_toNat_lt n⟩, Int.toNat_natCast,
    same]

theorem soleMember?_eq_lookup {members : List (String × Value)}
    (once : (members.map Prod.fst).Nodup) (name : String) :
    soleMember? members name = some (members.lookup name) := by
  induction members with
  | nil => rfl
  | cons member rest ih =>
      obtain ⟨other, value⟩ := member
      obtain ⟨new, once⟩ := List.nodup_cons.1 once
      rw [lookup_cons_eq_ite]
      by_cases same : name = other
      · have alone : rest.filter (·.1 = name) = [] := by
          rw [List.filter_eq_nil_iff]
          intro later member equal
          exact new (List.mem_map.2 ⟨later, member, (of_decide_eq_true equal).trans same⟩)
        rw [if_pos same, soleMember?, List.filter_cons_of_pos (by simp [same]), alone]
      · rw [if_neg same, ← ih once, soleMember?, soleMember?,
          List.filter_cons_of_neg (by simp [Ne.symm same])]

namespace Issue

theorem exact_toValue (issue : Issue) : issue.toValue.Exact := by
  have line : (Value.ofNat issue.line.toNat).Exact := Json.Value.exact_ofNat issue.line.toNat_lt
  rw [toValue]
  cases issue.suggestion with
  | none =>
      refine .object ?_ ?_
      · simp [Value.optionalMember]
      · simp [Value.optionalMember, line, Value.Exact.text]
  | some suggestion =>
      refine .object ?_ ?_
      · simp [Value.optionalMember]
      · simp [Value.optionalMember, line, Value.Exact.text]

theorem ofValue?_object {members : List (String × Value)} {issue : Issue} {written : Value}
    {given : Option Value} (path : textMember? members "filename" = some issue.path)
    (text : textMember? members "message" = some issue.text)
    (patternId : textMember? members "patternId" = some issue.patternId)
    (line : soleMember? members "line" = some (some written))
    (count : count? written = some issue.line)
    (suggestion : soleMember? members "suggestion" = some given)
    (optional : optionalText? (given.getD .null) = some issue.suggestion) :
    ofValue? (.object members) = some issue := by
  rw [ofValue?, path, text, patternId, line, suggestion]
  simp only [bind, Option.bind, count, optional, pure]

theorem ofValue?_toValue (issue : Issue) : ofValue? issue.toValue = some issue := by
  have sole := soleMember?_eq_lookup issue.exact_toValue.nodup
  refine ofValue?_object ?_ ?_ ?_ (sole "line") (count?_ofNat issue.line) (sole "suggestion") ?_
  · rw [textMember?, sole]; rfl
  · rw [textMember?, sole]; rfl
  · rw [textMember?, sole]; rfl
  · cases issue.suggestion <;> rfl

theorem depth_toValue (issue : Issue) : issue.toValue.depth = 1 := by
  rw [toValue]
  cases issue.suggestion <;> rfl

end Issue

namespace FileError

theorem exact_toValue (error : FileError) : error.toValue.Exact :=
  .object (by simp) (by simp [Value.Exact.text])

theorem ofValue?_toValue (error : FileError) : ofValue? error.toValue = some error := by
  have sole := soleMember?_eq_lookup error.exact_toValue.nodup
  rw [toValue, ofValue?]
  simp only [textMember?, sole]
  simp [lookup_cons_eq_ite, Value.text?]

theorem issue_ofValue?_toValue (error : FileError) : Issue.ofValue? error.toValue = none := by
  have sole := soleMember?_eq_lookup error.exact_toValue.nodup
  rw [toValue, Issue.ofValue?]
  simp only [textMember?, sole]
  simp [lookup_cons_eq_ite, Value.text?]

end FileError

namespace Finding

theorem ofValue?_toValue (finding : Finding) : ofValue? finding.toValue = some finding := by
  cases finding with
  | issue issue => rw [toValue, ofValue?, issue.ofValue?_toValue]; rfl
  | fileError error =>
      rw [toValue, ofValue?, error.issue_ofValue?_toValue, error.ofValue?_toValue]
      rfl

theorem exact_toValue (finding : Finding) : finding.toValue.Exact := by
  cases finding with
  | issue issue => exact issue.exact_toValue
  | fileError error => exact error.exact_toValue

theorem depth_toValue (finding : Finding) : finding.toValue.depth = 1 := by
  cases finding with
  | issue issue => exact issue.depth_toValue
  | fileError error => rfl

theorem reads_toValue (finding : Finding) :
    Decoder.Reads Decoder.finding finding.toValue finding := by
  refine ⟨finding.exact_toValue, fun room => ?_⟩
  have read := (Decoder.reads_rawValue finding.exact_toValue).decode_tree room
  rw [Decoder.finding, read]
  refine Json.within_bind_ok ?_
  rw [finding.ofValue?_toValue]
  rfl

/-- A list of findings is read back as it was, each finding as the kind that it is. -/
theorem allOfText_written_findings (findings : List Finding) :
    allOfText (Value.list (findings.map (·.toValue))).compact = .ok findings := by
  have reads := Decoder.reads_list fun finding (_ : finding ∈ findings) => finding.reads_toValue
  have shallow : (Value.list (findings.map (·.toValue))).depth ≤ 2 :=
    Json.Value.depth_list_map_le fun finding _ => Nat.le_of_eq finding.depth_toValue
  rw [allOfText, Decoder.document_compact reads]
  exact if_pos (Nat.le_trans shallow (by decide))

end Finding

end LintAdapter
