import LintAdapter.Proofs.Catalog
import LintAdapter.Proofs.Json.Opened

namespace LintAdapter

open Json (Value Fault Decoder Token Tree OpensObject)
open Rule (Metadata)

namespace Catalog

/-- The text is an object with these members as they are written, nested no deeper than a document
may be. -/
def HoldsObject (text : String) (written : List (String × Value)) : Prop :=
  Decoder.document Decoder.rawValue text = .ok (.object written)

def IsMetadata (written : List (String × Value)) (id : String) (metadata : Metadata) : Prop :=
  ∃ value, lastValue? written id = some value ∧ Metadata.ofValue value.merged = .ok metadata

structure Lists (written : List (String × Value)) (entries : List Entry) : Prop where
  ids : entries.map Entry.id = (written.map Prod.fst).eraseDups
  metadata : ∀ entry ∈ entries, IsMetadata written entry.id entry.metadata

structure RefusedAt (written : List (String × Value)) (id : String) (fault : Fault) : Prop where
  value : ∃ value, lastValue? written id = some value ∧
    Metadata.ofValue value.merged = .error fault
  first : ∃ before after, (written.map Prod.fst).eraseDups = before ++ id :: after ∧
    ∀ earlier ∈ before, ∃ metadata, IsMetadata written earlier metadata

structure ReadWhole (text : String) : Prop where
  accepted : (∃ entries, ofText text = .ok entries) ↔ ∃ written, HoldsObject text written ∧
    ∀ id ∈ written.map Prod.fst, ∃ metadata, IsMetadata written id metadata
  complete : ∀ written entries, HoldsObject text written → ofText text = .ok entries →
    Lists written entries
  noObject : (∃ fault, ofText text = .error (.document fault)) ↔
    ∀ written, ¬ HoldsObject text written
  flawed : OpensObject text.toList → ∀ fault, ofText text = .error (.document fault) ↔
    Decoder.document Decoder.rawValue text = .error fault
  refused : ∀ id fault, ofText text = .error (.entry id fault) ↔
    ∃ written, HoldsObject text written ∧ RefusedAt written id fault

/-- Two texts that are objects of the same members but for some in one place. -/
inductive Edits (text other : String) (old new : List (String × Value)) : Prop
  | intro (before after : List (String × Value))
      (object : HoldsObject text (before ++ old ++ after))
      (edited : HoldsObject other (before ++ new ++ after)) : Edits text other old new

/-! ### Members that are refused -/

theorem exists_ofMembers_eq_ok_iff (members : List (String × Value)) :
    (∃ entries, ofMembers members = .ok entries) ↔
      ∀ member ∈ members, ∃ metadata, Metadata.ofValue member.2 = .ok metadata := by
  simp only [ofMembers_eq_ok_iff]
  constructor
  · rintro ⟨entries, converted⟩ member listed
    obtain ⟨entry, -, converts⟩ := exists_entry converted listed
    exact ⟨_, converts.metadata⟩
  · intro all
    induction members with
    | nil => exact ⟨[], .nil⟩
    | cons member rest ih =>
        rw [List.forall_mem_cons] at all
        obtain ⟨metadata, read⟩ := all.1
        obtain ⟨entries, converted⟩ := ih all.2
        exact ⟨⟨member.1, metadata⟩ :: entries, .cons ⟨rfl, read⟩ converted⟩

theorem ofMembers_cons_eq_error_iff {value : Value} {metadata : Metadata}
    (read : Metadata.ofValue value = .ok metadata) (id : String) (rest : List (String × Value))
    (refusal : Refusal) :
    ofMembers ((id, value) :: rest) = .error refusal ↔ ofMembers rest = .error refusal := by
  rw [ofMembers, read]
  cases ofMembers rest <;> simp [bind, Except.bind, pure, Except.pure]

theorem ofMembers_eq_error_iff (members : List (String × Value)) (refusal : Refusal) :
    ofMembers members = .error refusal ↔ ∃ before id value after fault,
      members = before ++ (id, value) :: after ∧
      (∀ member ∈ before, ∃ metadata, Metadata.ofValue member.2 = .ok metadata) ∧
      Metadata.ofValue value = .error fault ∧ refusal = .entry id fault := by
  induction members with
  | nil => simp [ofMembers]
  | cons member rest ih =>
      obtain ⟨name, held⟩ := member
      cases read : Metadata.ofValue held with
      | error fault =>
          rw [ofMembers, read]
          constructor
          · intro refused
            cases refused
            exact ⟨[], name, held, rest, fault, rfl, by simp, read, rfl⟩
          · rintro ⟨before, id, value, after, told, split, earlier, refused, rfl⟩
            rcases List.cons_eq_append_iff.1 split with ⟨rfl, same⟩ | ⟨front, rfl, -⟩
            · cases same
              cases read.symm.trans refused
              rfl
            · obtain ⟨metadata, converts⟩ := earlier _ List.mem_cons_self
              cases read.symm.trans converts
      | ok metadata =>
          rw [ofMembers_cons_eq_error_iff read, ih]
          constructor
          · rintro ⟨before, id, value, after, fault, rfl, earlier, refused⟩
            exact ⟨(name, held) :: before, id, value, after, fault, rfl,
              List.forall_mem_cons.2 ⟨⟨metadata, read⟩, earlier⟩, refused⟩
          · rintro ⟨before, id, value, after, fault, split, earlier, refused, rfl⟩
            rcases List.cons_eq_append_iff.1 split with ⟨rfl, same⟩ | ⟨front, rfl, rfl⟩
            · cases same
              cases read.symm.trans refused
            · exact ⟨front, id, value, after, fault, rfl, (List.forall_mem_cons.1 earlier).2,
                refused, rfl⟩

/-! ### The members of a text -/

theorem exists_isMetadata_iff {written : List (String × Value)} {id : String} {value : Value}
    (member : (id, value) ∈ Json.Members.merge (Value.mergedMembers written)) :
    (∃ metadata, IsMetadata written id metadata) ↔
      ∃ metadata, Metadata.ofValue value = .ok metadata := by
  obtain ⟨given, last, rfl⟩ := (Value.mem_merged_members written id value).1 member
  simp only [IsMetadata, last, Option.some.injEq, exists_eq_left']

theorem lists_of_forall₂ {written : List (String × Value)} {entries : List Entry}
    (converted : List.Forall₂ Converts (Json.Members.merge (Value.mergedMembers written)) entries) :
    Lists written entries where
  ids := by rw [map_id_eq converted, Value.map_fst_merged_members]
  metadata := fun entry listed => (mem_entries_ofText converted entry).1 listed

theorem HoldsObject.ofText_eq {text : String} {written : List (String × Value)}
    (object : HoldsObject text written) :
    ofText text = ofMembers (Json.Members.merge (Value.mergedMembers written)) := by
  rw [ofText, (Decoder.document_members_eq_ok_iff text _).2 ⟨written, object, rfl⟩]

theorem ofText_eq_document_iff (text : String) (fault : Fault) :
    ofText text = .error (.document fault) ↔
      Decoder.document Decoder.members text = .error fault := by
  rw [ofText]
  cases Decoder.document Decoder.members text with
  | error other => simp
  | ok members => simp [ofMembers_eq_error_iff]

theorem holdsObject_of_tokens {text : String} {tokens : List Token} {tree : Tree}
    {written : List (String × Value)} (scanned : Token.ofText text.toList = tokens)
    (built : Tree.build (.value []) tokens = (tree, []))
    (read : tree.value Decoder.documentRoom = .ok (.object written)) :
    HoldsObject text written := by
  have whole : Tree.ofText text.toList = (tree, false) := by
    rw [Tree.ofText, scanned, built]
    rfl
  exact (Decoder.document_eq_ok_iff _ _ _).2 ⟨tree, whole, read⟩

theorem holdsObject_or_refused (text : String) :
    (∃ written, HoldsObject text written) ∨
      ∃ fault, Decoder.document Decoder.members text = .error fault := by
  cases read : Decoder.document Decoder.members text with
  | error fault => exact .inr ⟨fault, rfl⟩
  | ok members =>
      obtain ⟨written, object, -⟩ := (Decoder.document_members_eq_ok_iff text members).1 read
      exact .inl ⟨written, object⟩

theorem refusedAt_iff (written : List (String × Value)) (id : String) (fault : Fault) :
    RefusedAt written id fault ↔
      ofMembers (Json.Members.merge (Value.mergedMembers written)) = .error (.entry id fault) := by
  have listed {front back : List (String × Value)} {value : Value}
      (split : Json.Members.merge (Value.mergedMembers written) = front ++ (id, value) :: back) :
      (id, value) ∈ Json.Members.merge (Value.mergedMembers written) ∧
        ∀ other ∈ front, (other.1, other.2) ∈ Json.Members.merge (Value.mergedMembers written) := by
    rw [split]
    exact ⟨List.mem_append_right front List.mem_cons_self,
      fun other inFront => List.mem_append_left _ inFront⟩
  rw [ofMembers_eq_error_iff]
  constructor
  · rintro ⟨⟨given, last, refused⟩, before, after, names, earlier⟩
    rw [← Value.map_fst_merged_members] at names
    obtain ⟨front, rest, split, rfl, others⟩ := List.map_eq_append_iff.1 names
    obtain ⟨⟨_, value⟩, back, rfl, rfl, rfl⟩ := List.map_eq_cons_iff.1 others
    obtain ⟨member, front_listed⟩ := listed split
    obtain ⟨_, same, rfl⟩ := (Value.mem_merged_members _ _ _).1 member
    cases last.symm.trans same
    refine ⟨front, _, _, back, fault, split, fun other inFront => ?_, refused, rfl⟩
    exact (exists_isMetadata_iff (front_listed other inFront)).1
      (earlier _ (List.mem_map_of_mem inFront))
  · rintro ⟨front, _, value, back, _, split, earlier, refused, ⟨⟩⟩
    obtain ⟨member, front_listed⟩ := listed split
    obtain ⟨given, last, rfl⟩ := (Value.mem_merged_members _ _ _).1 member
    refine ⟨⟨given, last, refused⟩, front.map Prod.fst, back.map Prod.fst, ?_, ?_⟩
    · rw [← Value.map_fst_merged_members, split, List.map_append, List.map_cons]
    · intro name inNames
      obtain ⟨other, inFront, rfl⟩ := List.mem_map.1 inNames
      exact (exists_isMetadata_iff (front_listed other inFront)).2 (earlier other inFront)

/-! ### Texts -/

theorem exists_ofText_eq_ok_iff (text : String) :
    (∃ entries, ofText text = .ok entries) ↔ ∃ written, HoldsObject text written ∧
      ∀ id ∈ written.map Prod.fst, ∃ metadata, IsMetadata written id metadata := by
  constructor
  · rintro ⟨entries, accepted⟩
    obtain ⟨written, object, converted⟩ := (ofText_eq_ok_iff text entries).1 accepted
    have lists := lists_of_forall₂ converted
    refine ⟨written, object, fun id listed => ?_⟩
    rw [← List.mem_eraseDups, ← lists.ids] at listed
    obtain ⟨entry, member, rfl⟩ := List.mem_map.1 listed
    exact ⟨entry.metadata, lists.metadata entry member⟩
  · rintro ⟨written, object, all⟩
    rw [object.ofText_eq, exists_ofMembers_eq_ok_iff]
    rintro ⟨id, value⟩ member
    refine (exists_isMetadata_iff member).1 (all id ?_)
    rw [← List.mem_eraseDups, ← Value.map_fst_merged_members]
    exact List.mem_map_of_mem member

theorem exists_ofText_eq_document_iff (text : String) :
    (∃ fault, ofText text = .error (.document fault)) ↔ ∀ written, ¬ HoldsObject text written := by
  simp only [ofText_eq_document_iff]
  constructor
  · rintro ⟨fault, refused⟩ written object
    rw [(Decoder.document_members_eq_ok_iff text _).2 ⟨written, object, rfl⟩] at refused
    cases refused
  · intro noObject
    obtain ⟨written, object⟩ | refused := holdsObject_or_refused text
    · exact absurd object (noObject written)
    · exact refused

theorem ofText_eq_document_iff_of_opens {text : String} (opens : OpensObject text.toList)
    (fault : Fault) :
    ofText text = .error (.document fault) ↔
      Decoder.document Decoder.rawValue text = .error fault := by
  rw [ofText_eq_document_iff, Decoder.document_members_eq_error_iff opens]

theorem ofText_eq_entry_iff (text : String) (id : String) (fault : Fault) :
    ofText text = .error (.entry id fault) ↔
      ∃ written, HoldsObject text written ∧ RefusedAt written id fault := by
  simp only [refusedAt_iff]
  constructor
  · intro refused
    obtain ⟨written, object⟩ | ⟨fault, broken⟩ := holdsObject_or_refused text
    · exact ⟨written, object, object.ofText_eq ▸ refused⟩
    · rw [(ofText_eq_document_iff text fault).2 broken] at refused
      cases refused
  · rintro ⟨written, object, refused⟩
    rw [object.ofText_eq, refused]

/-! ### Texts that differ in some members -/

theorem filter_forall₂ (keep : String → Bool) {members : List (String × Value)}
    {entries : List Entry} (converted : List.Forall₂ Converts members entries) :
    List.Forall₂ Converts (members.filter fun member => keep member.1)
      (entries.filter fun entry => keep entry.id) := by
  refine List.rel_filter (fun member entry converts => ?_) converted
  change keep member.1 ↔ keep entry.id
  rw [converts.id]

section

variable {text other : String} {written rewritten : List (String × Value)} (keep : String → Bool)
  (object : HoldsObject text written) (edited : HoldsObject other rewritten)
  (same : written.filter (fun member => keep member.1) =
    rewritten.filter fun member => keep member.1)

include object edited same

theorem filter_entries_eq {entries others : List Entry} (accepted : ofText text = .ok entries)
    (otherAccepted : ofText other = .ok others) :
    entries.filter (fun entry => keep entry.id) = others.filter fun entry => keep entry.id := by
  rw [object.ofText_eq, ofMembers_eq_ok_iff] at accepted
  rw [edited.ofText_eq, ofMembers_eq_ok_iff] at otherAccepted
  -- What is kept of either text is converted from the same members.
  have first := filter_forall₂ keep accepted
  have second := filter_forall₂ keep otherAccepted
  rw [Value.filter_merged_members, same, ← ofMembers_eq_ok_iff] at first
  rw [Value.filter_merged_members, ← ofMembers_eq_ok_iff, first] at second
  exact Except.ok.inj second

theorem not_accepted_of_refused {id : String} {fault : Fault} (kept : keep id)
    (refused : ofText text = .error (.entry id fault)) (others : List Entry) :
    ofText other ≠ .ok others := by
  intro accepted
  rw [object.ofText_eq, ← refusedAt_iff] at refused
  obtain ⟨given, last, broken⟩ := refused.value
  have unchanged := congrArg (fun members => lastValue? members id) same
  simp only [lastValue?_filter, if_pos kept] at unchanged
  rw [unchanged] at last
  rw [edited.ofText_eq, ofMembers_eq_ok_iff] at accepted
  obtain ⟨metadata, -, read⟩ := exists_entry_ofText accepted last
  cases broken.symm.trans read

end

theorem filter_of_edit (before old new after : List (String × Value)) :
    (before ++ old ++ after).filter (fun member => member.1 ∉ (old ++ new).map Prod.fst) =
      (before ++ new ++ after).filter fun member => member.1 ∉ (old ++ new).map Prod.fst := by
  have dropped (members : List (String × Value)) (changed : members ⊆ old ++ new) :
      (members.filter fun member => member.1 ∉ (old ++ new).map Prod.fst) = [] := by
    rw [List.filter_eq_nil_iff]
    intro member listed kept
    exact of_decide_eq_true kept (List.mem_map_of_mem (changed listed))
  rw [List.filter_append, List.filter_append, List.filter_append, List.filter_append,
    dropped old (List.subset_append_left old new), dropped new (List.subset_append_right old new)]

theorem ofText_is_read_whole (text : String) :
    ReadWhole text ∧
    (∀ id fault, (Failure.content (.entry id fault)).message =
      "Failed to parse rule catalog: " ++ (id ++ ": " ++ fault.message)) ∧
    ∀ other old new, Edits text other old new →
      (∀ entries others, ofText text = .ok entries → ofText other = .ok others →
        entries.filter (fun entry => entry.id ∉ (old ++ new).map Prod.fst) =
          others.filter fun entry => entry.id ∉ (old ++ new).map Prod.fst) ∧
      ∀ id ∉ (old ++ new).map Prod.fst, ∀ fault, ofText text = .error (.entry id fault) →
        ∀ others, ofText other ≠ .ok others := by
  refine ⟨⟨exists_ofText_eq_ok_iff text, ?_, exists_ofText_eq_document_iff text,
    ofText_eq_document_iff_of_opens, ofText_eq_entry_iff text⟩, fun _ _ => rfl, ?_⟩
  · intro written entries object accepted
    rw [object.ofText_eq, ofMembers_eq_ok_iff] at accepted
    exact lists_of_forall₂ accepted
  · rintro other old new ⟨before, after, object, edited⟩
    have same := filter_of_edit before old new after
    constructor
    · intro entries others
      exact filter_entries_eq (fun id => id ∉ (old ++ new).map Prod.fst) object edited same
    · intro id unchanged fault
      exact not_accepted_of_refused (fun id => id ∉ (old ++ new).map Prod.fst) object edited same
        (decide_eq_true unchanged)

def twiceNamed : String := "\x7b\"b\":3,\"a\":\x7b\x7d,\"b\":\x7b\"deprecated\":true\x7d\x7d"

def onceNamed : String := "\x7b\"a\":\x7b\x7d,\"b\":\x7b\"deprecated\":true\x7d\x7d"

theorem holdsObject_twiceNamed : HoldsObject twiceNamed
    [("b", .ofNat 3), ("a", .object []), ("b", .object [("deprecated", .bool true)])] := by
  have tokens : Token.ofText twiceNamed.toList = [
      .openObject, .string [.plain 'b'], .colon, .numeral ⟨false, ['3'], [], none⟩, .comma,
      .string [.plain 'a'], .colon, .openObject, .closeObject, .comma,
      .string [.plain 'b'], .colon, .openObject,
      .string ("deprecated".toList.map .plain), .colon, .bool true, .closeObject,
      .closeObject] := by
    decide +kernel
  exact holdsObject_of_tokens tokens rfl rfl

theorem holdsObject_onceNamed : HoldsObject onceNamed
    [("a", .object []), ("b", .object [("deprecated", .bool true)])] := by
  have tokens : Token.ofText onceNamed.toList = [
      .openObject, .string [.plain 'a'], .colon, .openObject, .closeObject, .comma,
      .string [.plain 'b'], .colon, .openObject,
      .string ("deprecated".toList.map .plain), .colon, .bool true, .closeObject,
      .closeObject] := by
    decide +kernel
  exact holdsObject_of_tokens tokens rfl rfl

theorem ofText_twiceNamed :
    ∃ entries others, ofText twiceNamed = .ok entries ∧ ofText onceNamed = .ok others ∧
      entries.map Entry.id = ["b", "a"] ∧ others.map Entry.id = ["a", "b"] ∧
      entries.filter (fun entry => entry.id ∉ ["b"]) =
        others.filter fun entry => entry.id ∉ ["b"] := by
  obtain ⟨whole, -, edits⟩ := ofText_is_read_whole twiceNamed
  obtain ⟨once, -, -⟩ := ofText_is_read_whole onceNamed
  obtain ⟨entries, read⟩ : ∃ entries, ofText twiceNamed = .ok entries := by
    refine whole.accepted.2 ⟨_, holdsObject_twiceNamed, ?_⟩
    simp only [List.map_cons, List.map_nil, List.forall_mem_cons]
    exact ⟨⟨_, _, rfl, rfl⟩, ⟨_, _, rfl, rfl⟩, ⟨_, _, rfl, rfl⟩, by simp⟩
  obtain ⟨others, readOnce⟩ : ∃ others, ofText onceNamed = .ok others := by
    refine once.accepted.2 ⟨_, holdsObject_onceNamed, ?_⟩
    simp only [List.map_cons, List.map_nil, List.forall_mem_cons]
    exact ⟨⟨_, _, rfl, rfl⟩, ⟨_, _, rfl, rfl⟩, by simp⟩
  obtain ⟨unaffected, -⟩ := edits onceNamed [("b", .ofNat 3)] []
    (.intro [] _ holdsObject_twiceNamed holdsObject_onceNamed)
  exact ⟨entries, others, read, readOnce, (whole.complete _ _ holdsObject_twiceNamed read).ids,
    (once.complete _ _ holdsObject_onceNamed readOnce).ids,
    unaffected entries others read readOnce⟩

end Catalog

end LintAdapter
