import LintAdapter.Proofs.Json.Members
import LintAdapter.Proofs.Json.Written

namespace LintAdapter.Json

variable {α β ρ : Type}

def within (room depth : Nat) (a : α) : Except Fault α :=
  if depth ≤ room then .ok a else .error .tooDeep

theorem within_zero (room : Nat) (a : α) : within room 0 a = .ok a := if_pos (Nat.zero_le room)

theorem within_succ {room depth : Nat} {a : α} {inner : Except Fault α}
    (read : inner = within (room - 1) depth a) :
    (if room = 0 then .error .tooDeep else inner) = within room (depth + 1) a := by
  rw [read]
  unfold within
  split_ifs <;> first | rfl | omega

theorem map_within (f : α → β) (room depth : Nat) (a : α) :
    f <$> within room depth a = within room depth (f a) := by
  unfold within
  split_ifs <;> rfl

theorem within_bind {room left right : Nat} {a : α} {b : β} {next : α → Except Fault β}
    (read : next a = within room right b) :
    within room left a >>= next = within room (max left right) b := by
  unfold within at *
  split_ifs at * <;> first | exact read | rfl | omega

theorem within_bind_ok {room depth : Nat} {a : α} {b : β} {next : α → Except Fault β}
    (read : next a = .ok b) : within room depth a >>= next = within room depth b := by
  unfold within
  split_ifs <;> first | exact read | rfl

theorem Value.merged_of_exact {value : Value} (exact : value.Exact) : value.merged = value := by
  induction exact with
  | @list items all ih =>
      rw [merged, mergedItems_eq_map, List.map_congr_left ih, List.map_id']
  | @object members once all ih =>
      have same : members.map (fun member => (member.1, member.2.merged)) = members.map id :=
        List.map_congr_left fun member mem => Prod.ext rfl (ih member mem)
      rw [merged, mergedMembers_eq_map, same, List.map_id, Members.merge_of_nodup once]
  | _ => rfl

namespace Tree

theorem valueItems_itemTrees {items : List Value}
    (all : ∀ item ∈ items, ∀ room, item.tree.value room = within room item.depth item)
    (room : Nat) :
    valueItems room (Value.itemTrees items) = within room (Value.itemDepth items) items := by
  induction items with
  | nil => exact (within_zero room _).symm
  | cons item items ih =>
      have first := all item List.mem_cons_self room
      have others := ih fun other member => all other (List.mem_cons_of_mem _ member)
      rw [Value.itemTrees, Value.itemDepth, valueItems, first]
      refine within_bind ?_
      rw [others, bind_pure_comp, map_within]

theorem valueMembers_memberTrees {members : List (String × Value)}
    (all : ∀ member ∈ members, ∀ room,
      member.2.tree.value room = within room member.2.depth member.2) (room : Nat) :
    valueMembers room (Value.memberTrees members) =
      within room (Value.memberDepth members) members := by
  induction members with
  | nil => exact (within_zero room _).symm
  | cons member members ih =>
      obtain ⟨name, value⟩ := member
      have first : value.tree.value room = within room value.depth value :=
        all (name, value) List.mem_cons_self room
      have others := ih fun other member => all other (List.mem_cons_of_mem _ member)
      rw [Value.memberTrees, Value.memberDepth, valueMembers, decodeString_map_pieceOf, first]
      refine within_bind ?_
      rw [others, bind_pure_comp, map_within]

theorem value_tree {value : Value} (exact : value.Exact) (room : Nat) :
    value.tree.value room = within room value.depth value := by
  induction exact generalizing room with
  | null => exact (within_zero room _).symm
  | bool value => exact (within_zero room _).symm
  | integer least greatest =>
      rw [Value.tree, Tree.value, Numeral.number?_ofInt least greatest]
      exact (within_zero room _).symm
  | text text =>
      rw [Value.tree, Tree.value, decodeString_map_pieceOf]
      exact (within_zero room _).symm
  | list all ih =>
      rw [Value.tree, Tree.value, valueItems_itemTrees ih]
      exact within_succ ((bind_pure_comp _ _).trans (map_within _ _ _ _))
  | object once all ih =>
      rw [Value.tree, Tree.value, valueMembers_memberTrees ih]
      exact within_succ ((bind_pure_comp _ _).trans (map_within _ _ _ _))

end Tree

namespace Decoder

variable {decode : Decoder α} {value : Value} {a : α}

/-- The decoder reads the value as `a`. -/
structure Reads (decode : Decoder α) (value : Value) (a : α) : Prop where
  exact : value.Exact
  decode_tree : ∀ room, decode room value.tree = within room value.depth a

theorem reads_rawValue (exact : value.Exact) : Reads rawValue value value :=
  ⟨exact, Tree.value_tree exact⟩

theorem reads_value (exact : value.Exact) : Reads Decoder.value value value := by
  refine ⟨exact, fun room => ?_⟩
  rw [Decoder.value, Tree.value_tree exact, map_within, Value.merged_of_exact exact]

theorem reads_text (s : String) : Reads text (.text s) s := by
  refine ⟨.text s, fun room => ?_⟩
  rw [Value.tree, text, decodeString_map_pieceOf]
  exact (within_zero room s).symm

theorem reads_flag (b : Bool) : Reads flag (.bool b) b :=
  ⟨.bool b, fun room => (within_zero room b).symm⟩

theorem reads_count (n : UInt64) : Reads count (.ofNat n.toNat) n := by
  have fits : n.toNat < 0x10000000000000000 := n.toNat_lt
  have number : (Numeral.ofInt n.toNat).number? = some (.integer n.toNat) :=
    Numeral.number?_ofInt (by omega) (by omega)
  refine ⟨Value.exact_ofNat fits, fun room => ?_⟩
  have nonnegative : ¬ (n.toNat : Int) < 0 := by omega
  change count room (.numeral (.ofInt n.toNat)) = within room 0 n
  simp [count, number, nonnegative, within_zero]

theorem Reads.map (reads : Reads decode value a) (f : α → β) :
    Reads (fun room tree => f <$> decode room tree) value (f a) :=
  ⟨reads.exact, fun room => by rw [reads.decode_tree, map_within]⟩

theorem reads_null (decode : Decoder α) : Reads (optional decode) .null none :=
  ⟨.null, fun room => (within_zero room none).symm⟩

theorem Reads.present (reads : Reads decode value a) (notNull : value ≠ .null) :
    Reads (optional decode) value (some a) := by
  refine ⟨reads.exact, fun room => ?_⟩
  rw [optional, reads.decode_tree, map_within]
  exact fun null => reads.exact.tree_ne_null notNull null

theorem reads_orNull {write : α → Value} (each : ∀ a, Reads decode (write a) a)
    (notNull : ∀ a, write a ≠ .null) (option : Option α) :
    Reads (optional decode) (.orNull write option) option := by
  cases option with
  | none => exact reads_null decode
  | some a => exact (each a).present (notNull a)

theorem items_itemTrees {write : α → Value} {as : List α}
    (all : ∀ a ∈ as, Reads decode (write a) a) (room : Nat) :
    items (decode room) (Value.itemTrees (as.map write)) =
      within room (Value.itemDepth (as.map write)) as := by
  induction as with
  | nil => exact (within_zero room _).symm
  | cons a as ih =>
      have first := all a List.mem_cons_self
      have others := ih fun other member => all other (List.mem_cons_of_mem _ member)
      rw [List.map_cons, Value.itemTrees, Value.itemDepth, items, first.decode_tree]
      refine within_bind ?_
      rw [others, bind_pure_comp, map_within]

theorem reads_list {write : α → Value} {as : List α}
    (all : ∀ a ∈ as, Reads decode (write a) a) :
    Reads (list decode) (.list (as.map write)) as := by
  refine ⟨.list ?_, fun room => ?_⟩
  · intro item member
    obtain ⟨a, mem, rfl⟩ := List.mem_map.1 member
    exact (all a mem).exact
  · rw [Value.tree, list, items_itemTrees all]
    exact within_succ (bind_pure _)

theorem reads_pair {first second : Value} {b : α} (left : Reads decode first a)
    (right : Reads decode second b) : Reads (pair decode) (.list [first, second]) (a, b) := by
  refine ⟨.list ?_, fun room => ?_⟩
  · intro item member
    rcases List.mem_pair.1 member with rfl | rfl
    · exact left.exact
    · exact right.exact
  · simp only [Value.tree, Value.itemTrees, pair, left.decode_tree]
    refine within_succ (within_bind ?_)
    rw [right.decode_tree]
    exact within_bind (within_zero room (a, b)).symm

theorem document_compact (reads : Reads decode value a) :
    document decode value.compact = within documentRoom value.depth a := by
  rw [document, Value.compact, String.toList_ofList, Tree.ofText_chars]
  exact (bind_pure _).trans (reads.decode_tree documentRoom)

end Decoder

end LintAdapter.Json
