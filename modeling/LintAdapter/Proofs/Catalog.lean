import LintAdapter.Catalog
import LintAdapter.Proofs.Rule.Metadata

namespace LintAdapter.Catalog

open Json (Value Decoder)
open Rule (Metadata)

structure Converts (member : String × Value) (entry : Entry) : Prop where
  id : entry.id = member.1
  metadata : Metadata.ofValue member.2 = .ok entry.metadata

theorem ofMembers_eq_ok_iff (members : List (String × Value)) (entries : List Entry) :
    ofMembers members = .ok entries ↔ List.Forall₂ Converts members entries := by
  induction members generalizing entries with
  | nil =>
      rw [ofMembers, List.forall₂_nil_left_iff]
      exact ⟨fun equal => by cases equal; rfl, fun equal => by rw [equal]⟩
  | cons member rest ih =>
      obtain ⟨id, value⟩ := member
      rw [ofMembers, List.forall₂_cons_left_iff]
      cases read : Metadata.ofValue value with
      | error fault =>
          refine iff_of_false (fun equal => nomatch equal) ?_
          rintro ⟨entry, _, ⟨-, metadata⟩, -⟩
          rw [read] at metadata
          exact nomatch metadata
      | ok metadata =>
          constructor
          · intro converted
            cases others : ofMembers rest with
            | error refusal =>
                rw [others] at converted
                exact nomatch converted
            | ok converts =>
                rw [others] at converted
                cases converted
                exact ⟨⟨id, metadata⟩, converts, ⟨rfl, read⟩, (ih converts).1 others, rfl⟩
          · rintro ⟨⟨_, _⟩, converts, ⟨rfl, same⟩, others, rfl⟩
            rw [read] at same
            cases same
            rw [(ih converts).2 others]
            rfl

theorem map_id_eq {members : List (String × Value)} {entries : List Entry}
    (converted : List.Forall₂ Converts members entries) :
    entries.map Entry.id = members.map Prod.fst := by
  induction converted with
  | nil => rfl
  | cons converts _ ih => rw [List.map_cons, List.map_cons, converts.id, ih]

theorem exists_entry {members : List (String × Value)} {entries : List Entry}
    (converted : List.Forall₂ Converts members entries) {member : String × Value}
    (listed : member ∈ members) : ∃ entry ∈ entries, Converts member entry := by
  induction converted with
  | nil => exact absurd listed List.not_mem_nil
  | cons converts _ ih =>
      rcases List.mem_cons.1 listed with rfl | later
      · exact ⟨_, List.mem_cons_self, converts⟩
      · obtain ⟨entry, member, found⟩ := ih later
        exact ⟨entry, List.mem_cons_of_mem _ member, found⟩

theorem mem_entries_iff {members : List (String × Value)} {entries : List Entry}
    (converted : List.Forall₂ Converts members entries) (entry : Entry) :
    entry ∈ entries ↔ ∃ value, (entry.id, value) ∈ members ∧
      Metadata.ofValue value = .ok entry.metadata := by
  induction converted with
  | nil => simp
  | @cons member head _ _ converts _ ih =>
      obtain ⟨id, value⟩ := member
      obtain ⟨rfl, read⟩ := converts
      constructor
      · intro listed
        rcases List.mem_cons.1 listed with rfl | later
        · exact ⟨value, List.mem_cons_self, read⟩
        · obtain ⟨found, member, metadata⟩ := ih.1 later
          exact ⟨found, List.mem_cons_of_mem _ member, metadata⟩
      · rintro ⟨found, listed, metadata⟩
        rcases List.mem_cons.1 listed with same | later
        · obtain ⟨id, rfl⟩ := Prod.mk.inj same
          obtain ⟨⟩ := head
          obtain ⟨⟩ := entry
          cases id
          cases read.symm.trans metadata
          exact List.mem_cons_self
        · exact List.mem_cons_of_mem _ (ih.2 ⟨found, later, metadata⟩)

theorem ofText_eq_ok_iff (text : String) (entries : List Entry) :
    ofText text = .ok entries ↔
      ∃ raw, Decoder.document Decoder.rawValue text = .ok (.object raw) ∧
        List.Forall₂ Converts (Json.Members.merge (Value.mergedMembers raw)) entries := by
  rw [ofText]
  cases read : Decoder.document Decoder.members text with
  | error fault =>
      refine iff_of_false (fun equal => nomatch equal) ?_
      rintro ⟨raw, object, -⟩
      have accepted := (Decoder.document_members_eq_ok_iff text _).2 ⟨raw, object, rfl⟩
      rw [read] at accepted
      exact nomatch accepted
  | ok members =>
      obtain ⟨raw, object, rfl⟩ := (Decoder.document_members_eq_ok_iff text members).1 read
      simp only [object, ofMembers_eq_ok_iff, Except.ok.injEq, Value.object.injEq, exists_eq_left']

theorem nodup_ids {text : String} {entries : List Entry} (accepted : ofText text = .ok entries) :
    (entries.map Entry.id).Nodup := by
  obtain ⟨raw, -, converted⟩ := (ofText_eq_ok_iff text entries).1 accepted
  rw [map_id_eq converted]
  exact Json.Members.nodup_merge _

theorem find?_eq_some_iff {entries : List Entry} (nodup : (entries.map Entry.id).Nodup)
    (id : String) (entry : Entry) :
    entries.find? (·.id = id) = some entry ↔ entry ∈ entries ∧ entry.id = id := by
  constructor
  · intro found
    exact ⟨List.mem_of_find?_eq_some found, by simpa using List.find?_some found⟩
  · rintro ⟨member, rfl⟩
    cases found : entries.find? (·.id = entry.id) with
    | none =>
        have absent := List.find?_eq_none.1 found entry member
        simp at absent
    | some other =>
        have same : other.id = entry.id := by simpa using List.find?_some found
        rw [List.inj_on_of_nodup_map nodup (List.mem_of_find?_eq_some found) member same]

theorem mem_entries_ofText {raw : List (String × Value)} {entries : List Entry}
    (converted : List.Forall₂ Converts (Json.Members.merge (Value.mergedMembers raw)) entries)
    (entry : Entry) :
    entry ∈ entries ↔ ∃ given, lastValue? raw entry.id = some given ∧
      Metadata.ofValue given.merged = .ok entry.metadata := by
  rw [mem_entries_iff converted]
  simp only [Value.mem_merged_members]
  constructor
  · rintro ⟨_, ⟨given, last, rfl⟩, metadata⟩
    exact ⟨given, last, metadata⟩
  · rintro ⟨given, last, metadata⟩
    exact ⟨given.merged, ⟨given, last, rfl⟩, metadata⟩

theorem exists_entry_ofText {raw : List (String × Value)} {entries : List Entry}
    (converted : List.Forall₂ Converts (Json.Members.merge (Value.mergedMembers raw)) entries)
    {id : String} {given : Value} (last : lastValue? raw id = some given) :
    ∃ metadata, ⟨id, metadata⟩ ∈ entries ∧ Metadata.ofValue given.merged = .ok metadata := by
  have member : (id, given.merged) ∈ Json.Members.merge (Value.mergedMembers raw) :=
    (Value.mem_merged_members raw id given.merged).2 ⟨given, last, rfl⟩
  obtain ⟨⟨_, metadata⟩, listed, rfl, read⟩ := exists_entry converted member
  exact ⟨metadata, listed, read⟩

end LintAdapter.Catalog
