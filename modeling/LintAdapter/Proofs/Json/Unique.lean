import LintAdapter.Proofs.Json.Written

namespace LintAdapter.Json

theorem Numeral.ofInt_inj {value other : Int} (same : ofInt value = ofInt other) :
    value = other := by
  simp only [ofInt, Numeral.mk.injEq, and_true, decide_eq_decide] at same
  obtain ⟨sign, digits⟩ := same
  have magnitude : value.natAbs = other.natAbs := by
    rw [← Nat.ofDigitChars_ten_toDigits (n := value.natAbs), digits, Nat.ofDigitChars_ten_toDigits]
  omega

theorem map_pieceOf_inj {text other : String}
    (same : text.toList.map pieceOf = other.toList.map pieceOf) : text = other := by
  have decoded := decodeString_map_pieceOf text
  rw [same, decodeString_map_pieceOf] at decoded
  exact (Except.ok.inj decoded).symm

namespace Value

inductive Integral : Value → Prop
  | null : Integral .null
  | bool (value : Bool) : Integral (.bool value)
  | integer (value : Int) : Integral (.number (.integer value))
  | text (text : String) : Integral (.text text)
  | list {items : List Value} (all : ∀ item ∈ items, Integral item) : Integral (.list items)
  | object {members : List (String × Value)} (all : ∀ member ∈ members, Integral member.2) :
      Integral (.object members)

def TreeIsOwn (value : Value) : Prop :=
  ∀ other : Value, other.Integral → value.tree = other.tree → value = other

theorem itemTrees_inj {items others : List Value} (own : ∀ item ∈ items, item.TreeIsOwn)
    (integral : ∀ other ∈ others, other.Integral) (same : itemTrees items = itemTrees others) :
    items = others := by
  induction items generalizing others with
  | nil =>
      cases others with
      | nil => rfl
      | cons other others => exact nomatch same
  | cons item items ih =>
      cases others with
      | nil => exact nomatch same
      | cons other others =>
          rw [List.forall_mem_cons] at own integral
          obtain ⟨first, rest⟩ := List.cons.inj same
          rw [own.1 other integral.1 first, ih own.2 integral.2 rest]

theorem memberTrees_inj {members others : List (String × Value)}
    (own : ∀ member ∈ members, member.2.TreeIsOwn)
    (integral : ∀ other ∈ others, other.2.Integral)
    (same : memberTrees members = memberTrees others) : members = others := by
  induction members generalizing others with
  | nil =>
      cases others with
      | nil => rfl
      | cons other others => exact nomatch same
  | cons member members ih =>
      cases others with
      | nil => exact nomatch same
      | cons other others =>
          rw [List.forall_mem_cons] at own integral
          obtain ⟨first, rest⟩ := List.cons.inj same
          obtain ⟨name, value⟩ := Prod.mk.inj first
          rw [Prod.ext (map_pieceOf_inj name) (own.1 other.2 integral.1 value),
            ih own.2 integral.2 rest]

theorem Integral.treeIsOwn {value : Value} (integral : value.Integral) : value.TreeIsOwn := by
  intro other otherIntegral same
  induction integral generalizing other with
  | null =>
      cases otherIntegral with
      | null => rfl
      | _ => simp [tree] at same
  | bool value =>
      cases otherIntegral with
      | bool other => rw [Tree.bool.inj same]
      | _ => simp [tree] at same
  | integer value =>
      cases otherIntegral with
      | integer other => rw [Numeral.ofInt_inj (Tree.numeral.inj same)]
      | _ => simp [tree] at same
  | text text =>
      cases otherIntegral with
      | text other => rw [map_pieceOf_inj (Tree.string.inj same)]
      | _ => simp [tree] at same
  | list all ih =>
      cases otherIntegral with
      | list others => rw [itemTrees_inj ih others (Tree.list.inj same).1]
      | _ => simp [tree] at same
  | object all ih =>
      cases otherIntegral with
      | object others => rw [memberTrees_inj ih others (Tree.object.inj same).1]
      | _ => simp [tree] at same

theorem compact_eq_compact_iff {value other : Value} (integral : value.Integral)
    (otherIntegral : other.Integral) : value.compact = other.compact ↔ value = other := by
  refine ⟨fun same => ?_, congrArg compact⟩
  have chars : value.chars = other.chars := String.ofList_inj.1 same
  have trees := Tree.ofText_chars value
  rw [chars, Tree.ofText_chars other] at trees
  exact integral.treeIsOwn other otherIntegral (Prod.mk.inj trees).1.symm

end Value

end LintAdapter.Json
