import LintAdapter.Diagnostics
import LintAdapter.Proofs.Json.Record

namespace LintAdapter

open Json (Value Decoder)
open Json.Decoder (Reads Fills)

theorem Fix.reads_toValue (fix : Fix) : Reads Decoder.fix fix.toValue fix := by
  refine Decoder.reads_record (by decide) ?_
  have range := Decoder.reads_pair (Decoder.reads_count fix.start) (Decoder.reads_count fix.stop)
  exact .fill (range.map _) <| .fill ((Decoder.reads_text fix.text).map _) <| .done _

theorem Alternative.reads_toValue (alternative : Alternative) :
    Reads Decoder.alternative alternative.toValue alternative := by
  refine Decoder.reads_record (by decide) ?_
  exact .fill ((Decoder.reads_text _).map _) <| .fill (alternative.fix.reads_toValue.map _) <|
    .done _

theorem Message.reads_toValue (message : Message) :
    Reads Decoder.message message.toValue message := by
  have alternatives (given : List Alternative) := Decoder.reads_list
    fun alternative (_ : alternative ∈ given) => alternative.reads_toValue
  have counts (line : Option UInt64) :
      Reads (.optional .count) (.orNull (fun line => .ofNat line.toNat) line) line :=
    Decoder.reads_orNull Decoder.reads_count nofun line
  refine Decoder.reads_record (by decide) ?_
  rw [← List.append_nil (Value.optionalMember "suggestions" _ _)]
  exact .fill ((Decoder.reads_orNull Decoder.reads_text nofun message.ruleId).map _) <|
    .fill ((Decoder.reads_text message.text).map _) <|
    .fill ((counts message.line).map _) <|
    .fill ((counts message.endLine).map _) <|
    .fill ((Decoder.reads_flag message.fatal).map _) <|
    .member message.fix (fun fix _ => fix.reads_toValue) nofun rfl <|
    .member message.alternatives (fun given _ => alternatives given) nofun rfl <|
    .done _

theorem Batch.reads_toValue {batch : Batch} (counted : batch.fatalCount < 0x10000000000000000) :
    Reads Decoder.batch batch.toValue batch := by
  have messages := Decoder.reads_list
    fun message (_ : message ∈ batch.messages) => message.reads_toValue
  -- The number of fatal messages is a natural number but is read as one of 64 bits.
  have fatal := Decoder.reads_count (.ofNat batch.fatalCount)
  have same : (UInt64.ofNat batch.fatalCount).toNat = batch.fatalCount :=
    UInt64.toNat_ofNat_of_lt counted
  rw [same] at fatal
  refine Decoder.reads_record (by decide) ?_
  rw [← List.append_nil (Value.optionalMember "source" _ _)]
  refine .fill ((Decoder.reads_text batch.path).map _) <| .fill (messages.map _) <|
    .fill (fatal.map _) <| .member batch.source (fun source _ => Decoder.reads_text source) nofun
      rfl ?_
  rw [same]
  exact .done _

theorem Fix.depth_toValue (fix : Fix) : fix.toValue.depth = 2 := rfl

theorem Alternative.depth_toValue (alternative : Alternative) :
    alternative.toValue.depth = 3 := rfl

theorem Message.depth_toValue_le (message : Message) : message.toValue.depth ≤ 5 := by
  have fix (fix : Fix) : fix.toValue.depth ≤ 4 := by simp [fix.depth_toValue]
  have alternatives (given : List Alternative) :
      (Value.list (given.map (·.toValue))).depth ≤ 4 :=
    Json.Value.depth_list_map_le fun alternative _ => Nat.le_of_eq alternative.depth_toValue
  rw [toValue, Json.Value.depth_object_le_iff]
  simp only [List.cons_append, List.nil_append, Value.memberDepth, Json.Value.memberDepth_append,
    Json.Value.depth_text, Json.Value.depth_bool, Json.Value.depth_ofNat, Nat.max_le, Nat.zero_le,
    Json.Value.depth_orNull_le_iff, Json.Value.memberDepth_optionalMember_le_iff, fix, alternatives,
    implies_true, and_self]

theorem Batch.depth_toValue_le (batch : Batch) : batch.toValue.depth ≤ 7 := by
  have messages : (Value.list (batch.messages.map (·.toValue))).depth ≤ 6 :=
    Json.Value.depth_list_map_le fun message _ => message.depth_toValue_le
  rw [toValue, Json.Value.depth_object_le_iff]
  simp [Value.memberDepth, Json.Value.memberDepth_optionalMember_le_iff, messages]

theorem Batch.allOfText_compact_singleton {batch : Batch}
    (counted : batch.fatalCount < 0x10000000000000000) :
    allOfText (Value.list [batch.toValue]).compact = .ok [batch] := by
  have reads := Decoder.reads_list fun given (member : given ∈ [batch]) =>
    reads_toValue (List.mem_singleton.1 member ▸ counted)
  have shallow : (Value.list ([batch].map (·.toValue))).depth ≤ 8 :=
    Json.Value.depth_list_map_le fun given _ => given.depth_toValue_le
  have read := Decoder.document_compact reads
  rw [List.map_singleton] at read
  rw [allOfText, read]
  exact if_pos (Nat.le_trans shallow (by decide))

structure Message.WritesAbsent (message : Message) : Prop where
  ruleId : message.toValue.get? "ruleId" = some .null ↔ message.ruleId = none
  line : message.toValue.get? "line" = some .null ↔ message.line = none
  endLine : message.toValue.get? "endLine" = some .null ↔ message.endLine = none
  fix : message.toValue.get? "fix" = none ↔ message.fix = none
  alternatives : message.toValue.get? "suggestions" = none ↔ message.alternatives = none
  noAlternatives : message.toValue.get? "suggestions" = some (.list []) ↔
    message.alternatives = some []

theorem Message.writesAbsent (message : Message) : message.WritesAbsent := by
  obtain ⟨ruleId, text, line, endLine, fatal, fix, alternatives⟩ := message
  constructor
  · cases ruleId <;> simp [toValue, Value.get?, Value.orNull]
  · cases line <;> simp [toValue, Value.get?, lookup_cons_eq_ite, Value.orNull, Value.ofNat]
  · cases endLine <;> simp [toValue, Value.get?, lookup_cons_eq_ite, Value.orNull, Value.ofNat]
  · cases fix <;> cases alternatives <;>
      simp [toValue, Value.get?, lookup_cons_eq_ite, Value.optionalMember]
  · cases fix <;> cases alternatives <;>
      simp [toValue, Value.get?, lookup_cons_eq_ite, Value.optionalMember]
  · cases fix <;> cases alternatives <;>
      simp [toValue, Value.get?, lookup_cons_eq_ite, Value.optionalMember]

theorem Batch.get?_source (batch : Batch) :
    batch.toValue.get? "source" = batch.source.map Value.text := by
  cases source : batch.source <;>
    simp [toValue, Value.get?, lookup_cons_eq_ite, Value.optionalMember, source]

namespace Batch

/-- A list of batches is read back as it was. What is absent in it comes back absent, whether it was
written as `null` or left out, and what is empty comes back empty. -/
theorem allOfText_written_batches (batches : List Batch)
    (counted : ∀ batch ∈ batches, batch.fatalCount < 0x10000000000000000) :
    allOfText (Value.list (batches.map (·.toValue))).compact = .ok batches ∧
    ∀ batch ∈ batches, batch.toValue.get? "source" = batch.source.map Value.text ∧
      ∀ message ∈ batch.messages, message.WritesAbsent := by
  have reads := Decoder.reads_list fun batch member => reads_toValue (counted batch member)
  have shallow : (Value.list (batches.map (·.toValue))).depth ≤ 8 :=
    Json.Value.depth_list_map_le fun batch _ => batch.depth_toValue_le
  refine ⟨?_, fun batch _ => ⟨batch.get?_source, fun message _ => message.writesAbsent⟩⟩
  rw [allOfText, Decoder.document_compact reads]
  exact if_pos (Nat.le_trans shallow (by decide))

def sparse : List Batch := [
  ⟨"", [
    ⟨none, "", none, some 0, true, none, some []⟩,
    ⟨some "", "\n\"\\", some 0xffffffffffffffff, none, false,
      some ⟨0xffffffffffffffff, 0, "é"⟩, some [⟨"", ⟨0, 1, "\x00"⟩⟩]⟩],
    0xffffffffffffffff, some ""⟩,
  .ofPath "a.js"]

theorem allOfText_sparse :
    (∀ batch ∈ sparse, batch.fatalCount < 0x10000000000000000) ∧
      allOfText (Value.list (sparse.map (·.toValue))).compact = .ok sparse := by
  have counted : ∀ batch ∈ sparse, batch.fatalCount < 0x10000000000000000 := by decide
  exact ⟨counted, (allOfText_written_batches sparse counted).1⟩

end Batch

end LintAdapter
