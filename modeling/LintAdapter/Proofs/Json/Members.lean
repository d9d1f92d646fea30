import LintAdapter.Json.Decoder
import LintAdapter.Proofs.Distinct
import LintAdapter.Proofs.LastValue

namespace LintAdapter.Json

namespace Members

variable {α : Type}

theorem lookup_insert (members : List (String × α)) (name : String) (value : α) (other : String) :
    (insert members name value).lookup other =
      if other = name then some value else members.lookup other := by
  induction members with
  | nil => exact lookup_cons_eq_ite name value [] other
  | cons member rest ih =>
      obtain ⟨key, held⟩ := member
      rw [insert]
      split_ifs with sameKey sameName
      all_goals simp only [lookup_cons_eq_ite, ih]
      all_goals split_ifs <;> simp_all

theorem lookup_merge (members : List (String × α)) (name : String) :
    (merge members).lookup name = lastValue? members name :=
  lookup_foldl_eq_lastValue? _ (fun held member => lookup_insert held member.1 member.2) members
    name

theorem map_fst_insert (members : List (String × α)) (name : String) (value : α) :
    (insert members name value).map Prod.fst =
      if name ∈ members.map Prod.fst then members.map Prod.fst
      else members.map Prod.fst ++ [name] := by
  induction members with
  | nil => rfl
  | cons member rest ih =>
      obtain ⟨key, held⟩ := member
      rw [insert]
      by_cases same : key = name
      · rw [if_pos same, if_pos (by rw [← same]; exact List.mem_cons_self)]
        rfl
      · rw [if_neg same, List.map_cons, ih]
        simp only [List.map_cons, List.mem_cons, Ne.symm same, false_or]
        split_ifs <;> rfl

theorem map_fst_merge (members : List (String × α)) :
    (merge members).map Prod.fst = (members.map Prod.fst).eraseDups := by
  induction members using List.reverseRecOn with
  | nil => rfl
  | append_singleton rest member ih =>
      rw [merge, List.foldl_concat, map_fst_insert, ← merge, ih, List.map_append,
        List.map_singleton, eraseDups_concat]
      simp only [List.mem_eraseDups]

theorem merge_eq_nil_iff (members : List (String × α)) : merge members = [] ↔ members = [] := by
  constructor
  · intro empty
    have names := map_fst_merge members
    rw [empty] at names
    cases members with
    | nil => rfl
    | cons member rest =>
        rw [List.map_cons, List.eraseDups_cons] at names
        cases names
  · rintro rfl
    rfl

theorem nodup_merge (members : List (String × α)) : ((merge members).map Prod.fst).Nodup := by
  rw [map_fst_merge]
  exact nodup_eraseDups _

theorem ext_of_names {first second : List (String × α)} (once : (second.map Prod.fst).Nodup)
    (names : first.map Prod.fst = second.map Prod.fst) (held : ∀ member ∈ first, member ∈ second) :
    first = second := by
  induction first generalizing second with
  | nil => exact (List.map_eq_nil_iff.1 names.symm).symm
  | cons member rest ih =>
      obtain ⟨other, others, rfl, sameName, restNames⟩ := List.map_eq_cons_iff.1 names.symm
      rw [List.map_cons, List.nodup_cons] at once
      rw [List.forall_mem_cons] at held
      have same : member = other := by
        refine (List.mem_cons.1 held.1).resolve_right fun later => once.1 ?_
        rw [sameName]
        exact List.mem_map_of_mem later
      rw [same, ih once.2 restNames.symm]
      intro later inRest
      refine (List.mem_cons.1 (held.2 later inRest)).resolve_left ?_
      rintro rfl
      exact once.1 (restNames ▸ List.mem_map_of_mem inRest)

theorem mem_merge (members : List (String × α)) (name : String) (value : α) :
    (name, value) ∈ merge members ↔ lastValue? members name = some value := by
  rw [← lookup_merge, lookup_eq_lastValue? (nodup_merge members),
    lastValue?_eq_some_iff_mem (nodup_merge members)]

theorem merge_filter (keep : String → Bool) (members : List (String × α)) :
    (merge members).filter (fun member => keep member.1) =
      merge (members.filter fun member => keep member.1) := by
  refine ext_of_names (nodup_merge _) ?_ ?_
  · have names (pairs : List (String × α)) :
        (pairs.filter fun member => keep member.1).map Prod.fst =
          (pairs.map Prod.fst).filter keep := by
      rw [List.filter_map]
      rfl
    rw [names, map_fst_merge, map_fst_merge, names, eraseDups_filter]
  · rintro ⟨name, value⟩ member
    obtain ⟨held, kept⟩ := List.mem_filter.1 member
    rw [mem_merge, lastValue?_filter, if_pos kept, ← mem_merge]
    exact held

theorem insert_of_not_mem {members : List (String × α)} {name : String}
    (new : name ∉ members.map Prod.fst) (value : α) :
    insert members name value = members ++ [(name, value)] := by
  induction members with
  | nil => rfl
  | cons member rest ih =>
      obtain ⟨other, held⟩ := member
      simp only [List.map_cons, List.mem_cons, not_or] at new
      rw [insert, if_neg (Ne.symm new.1), ih new.2, List.cons_append]

theorem merge_of_nodup {members : List (String × α)} (once : (members.map Prod.fst).Nodup) :
    merge members = members := by
  induction members using List.reverseRecOn with
  | nil => rfl
  | append_singleton rest member ih =>
      rw [List.map_append, List.nodup_append] at once
      have new : member.1 ∉ rest.map Prod.fst := fun old =>
        once.2.2 _ old _ (List.mem_singleton_self _) rfl
      have front : merge rest = rest := ih once.1
      rw [merge] at front
      rw [merge, List.foldl_concat, front, insert_of_not_mem new]

end Members

namespace Value

theorem mergedItems_eq_map (items : List Value) : mergedItems items = items.map merged := by
  induction items with
  | nil => rfl
  | cons item rest ih => rw [mergedItems, ih, List.map_cons]

theorem mergedMembers_eq_map (members : List (String × Value)) :
    mergedMembers members = members.map fun member => (member.1, member.2.merged) := by
  induction members with
  | nil => rfl
  | cons member rest ih => rw [mergedMembers, ih, List.map_cons]

theorem lastValue?_mergedMembers (members : List (String × Value)) (name : String) :
    lastValue? (mergedMembers members) name = (lastValue? members name).map merged := by
  rw [mergedMembers_eq_map]
  induction members with
  | nil => rfl
  | cons member rest ih =>
      rw [List.map_cons, lastValue?_cons, lastValue?_cons, ih]
      by_cases same : name = member.1 <;> cases lastValue? rest name <;> simp [same]

theorem lookup_merged_members (members : List (String × Value)) (name : String) :
    (Members.merge (mergedMembers members)).lookup name =
      (lastValue? members name).map merged := by
  rw [Members.lookup_merge, lastValue?_mergedMembers]

theorem mem_merged_members (members : List (String × Value)) (name : String) (value : Value) :
    (name, value) ∈ Members.merge (mergedMembers members) ↔
      ∃ written, lastValue? members name = some written ∧ written.merged = value := by
  rw [Members.mem_merge, lastValue?_mergedMembers, Option.map_eq_some_iff]

theorem map_fst_merged_members (members : List (String × Value)) :
    (Members.merge (mergedMembers members)).map Prod.fst = (members.map Prod.fst).eraseDups := by
  rw [Members.map_fst_merge, mergedMembers_eq_map, List.map_map]
  rfl

theorem filter_merged_members (keep : String → Bool) (members : List (String × Value)) :
    (Members.merge (mergedMembers members)).filter (fun member => keep member.1) =
      Members.merge (mergedMembers (members.filter fun member => keep member.1)) := by
  rw [Members.merge_filter, mergedMembers_eq_map, mergedMembers_eq_map, List.filter_map]
  rfl

end Value

namespace Decoder

theorem document_eq_ok_iff {α : Type} (decode : Decoder α) (text : String) (value : α) :
    document decode text = .ok value ↔
      ∃ tree, Tree.ofText text.toList = (tree, false) ∧ decode documentRoom tree = .ok value := by
  rw [document]
  obtain ⟨tree, more⟩ := Tree.ofText text.toList
  cases decoded : decode documentRoom tree with
  | error fault => simp [bind, Except.bind, decoded]
  | ok found => cases more <;> simp [bind, Except.bind, pure, Except.pure, decoded]

theorem members_eq_ok_iff (room : Nat) (tree : Tree) (members : List (String × Value)) :
    Decoder.members room tree = .ok members ↔
      ∃ raw, rawValue room tree = .ok (.object raw) ∧
        members = Members.merge (Value.mergedMembers raw) := by
  rw [rawValue]
  cases tree with
  | object trees stop =>
      rw [Decoder.members, Tree.value]
      split_ifs with full
      · simp
      · cases read : Tree.valueMembers (room - 1) trees with
        | error fault => simp [bind, Except.bind]
        | ok raw =>
            cases closedObject stop with
            | error fault => simp [bind, Except.bind]
            | ok _ => simp [bind, Except.bind, pure, Except.pure, eq_comm]
  | null => simp [Decoder.members, Tree.value]
  | bool value => simp [Decoder.members, Tree.value]
  | numeral written =>
      rw [Decoder.members, Tree.value]
      · cases written.number? <;> simp
      · exact fun _ _ object => nomatch object
  | string pieces =>
      rw [Decoder.members, Tree.value]
      · cases decodeString pieces <;> simp [bind, Except.bind, pure, Except.pure]
      · exact fun _ _ object => nomatch object
  | list items stop =>
      rw [Decoder.members, Tree.value]
      · split_ifs with full
        · simp
        · cases Tree.valueItems (room - 1) items with
          | error fault => simp [bind, Except.bind]
          | ok values =>
              cases closedList stop <;>
                simp [bind, Except.bind, pure, Except.pure]
      · exact fun _ _ object => nomatch object
  | broken why => simp [Decoder.members, Tree.value]

theorem document_members_eq_ok_iff (text : String) (members : List (String × Value)) :
    document Decoder.members text = .ok members ↔
      ∃ raw, document rawValue text = .ok (.object raw) ∧
        members = Members.merge (Value.mergedMembers raw) := by
  simp only [document_eq_ok_iff, members_eq_ok_iff]
  constructor
  · rintro ⟨tree, whole, raw, read, rfl⟩
    exact ⟨raw, ⟨tree, whole, read⟩, rfl⟩
  · rintro ⟨raw, ⟨tree, whole, read⟩, rfl⟩
    exact ⟨tree, whole, raw, read, rfl⟩

end Decoder

end LintAdapter.Json
