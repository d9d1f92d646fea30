import LintAdapter.Proofs.Json.Escape
import LintAdapter.Proofs.Json.NumberText
import LintAdapter.Proofs.Json.Spelled

namespace LintAdapter.Json

namespace Value

/-- A value that its text gives in full: the numbers in it are whole and have 64 bits, and no object
in it holds a name twice. -/
inductive Exact : Value → Prop
  | null : Exact .null
  | bool (value : Bool) : Exact (.bool value)
  | integer {value : Int} (least : -0x8000000000000000 ≤ value)
      (greatest : value < 0x10000000000000000) : Exact (.number (.integer value))
  | text (text : String) : Exact (.text text)
  | list {items : List Value} (all : ∀ item ∈ items, Exact item) : Exact (.list items)
  | object {members : List (String × Value)} (once : (members.map Prod.fst).Nodup)
      (all : ∀ member ∈ members, Exact member.2) : Exact (.object members)

theorem exact_ofNat {n : Nat} (fits : n < 0x10000000000000000) : Exact (.ofNat n) :=
  .integer (by omega) (by omega)

theorem Exact.nodup {members : List (String × Value)} (exact : (Value.object members).Exact) :
    (members.map Prod.fst).Nodup := by
  cases exact with
  | object once => exact once

mutual

def tree : Value → Tree
  | .null => .null
  | .bool value => .bool value
  | .number (.integer value) => .numeral (.ofInt value)
  | .number (.real value) => (Tree.ofText (value.text numberLayout)).1
  | .text s => .string (s.toList.map pieceOf)
  | .list items => .list (itemTrees items) none
  | .object members => .object (memberTrees members) none

def itemTrees : List Value → List Tree
  | [] => []
  | item :: rest => item.tree :: itemTrees rest

def memberTrees : List (String × Value) → List (List Piece × Tree)
  | [] => []
  | (name, value) :: rest => (name.toList.map pieceOf, value.tree) :: memberTrees rest

end

mutual

def depth : Value → Nat
  | .list items => itemDepth items + 1
  | .object members => memberDepth members + 1
  | .null => 0
  | .bool _ => 0
  | .number _ => 0
  | .text _ => 0

def itemDepth : List Value → Nat
  | [] => 0
  | item :: rest => max item.depth (itemDepth rest)

def memberDepth : List (String × Value) → Nat
  | [] => 0
  | (_, value) :: rest => max value.depth (memberDepth rest)

end

@[simp] theorem depth_bool (value : Bool) : (Value.bool value).depth = 0 := rfl

@[simp] theorem depth_ofNat (n : Nat) : (Value.ofNat n).depth = 0 := rfl

@[simp] theorem depth_text (s : String) : (Value.text s).depth = 0 := rfl

theorem itemDepth_le_iff (items : List Value) (bound : Nat) :
    itemDepth items ≤ bound ↔ ∀ item ∈ items, item.depth ≤ bound := by
  induction items with
  | nil => simp [itemDepth]
  | cons item rest ih => rw [itemDepth, Nat.max_le, ih, List.forall_mem_cons]

theorem memberDepth_append (first second : List (String × Value)) :
    memberDepth (first ++ second) = max (memberDepth first) (memberDepth second) := by
  induction first with
  | nil => simp [memberDepth]
  | cons member rest ih =>
      obtain ⟨name, value⟩ := member
      rw [List.cons_append, memberDepth, memberDepth, ih, Nat.max_assoc]

theorem memberDepth_optionalMember_le_iff {α : Type} (name : String) (write : α → Value)
    (option : Option α) (bound : Nat) :
    memberDepth (optionalMember name write option) ≤ bound ↔
      ∀ a, option = some a → (write a).depth ≤ bound := by
  cases option <;> simp [optionalMember, memberDepth]

theorem depth_orNull_le_iff {α : Type} (write : α → Value) (option : Option α) (bound : Nat) :
    (orNull write option).depth ≤ bound ↔ ∀ a, option = some a → (write a).depth ≤ bound := by
  cases option with
  | none => simp [orNull, depth]
  | some a => simp [orNull]

theorem depth_object_le_iff (members : List (String × Value)) (bound : Nat) :
    (Value.object members).depth ≤ bound + 1 ↔ memberDepth members ≤ bound := by
  rw [depth, Nat.add_le_add_iff_right]

theorem depth_list_map_le {α : Type} {write : α → Value} {items : List α} {bound : Nat}
    (all : ∀ item ∈ items, (write item).depth ≤ bound) :
    (Value.list (items.map write)).depth ≤ bound + 1 := by
  rw [depth, Nat.add_le_add_iff_right, itemDepth_le_iff]
  intro value member
  obtain ⟨item, mem, rfl⟩ := List.mem_map.1 member
  exact all item mem

theorem Exact.tree_ne_null {value : Value} (exact : value.Exact) (present : value ≠ .null) :
    value.tree ≠ .null := by
  cases exact with
  | null => exact absurd rfl present
  | _ => simp [tree]

end Value

namespace Value

theorem isPrinted_toDigits (n : Nat) : IsPrinted (Nat.toDigits 10 n) := by
  intro c member
  have digit := Token.isDigit_of_mem_toDigits member
  simp only [Token.isDigit, Bool.and_eq_true, decide_eq_true_eq] at digit
  exact Nat.le_trans (by decide) digit.1

theorem isPrinted_itemChars {items : List Value} (all : ∀ item ∈ items, IsPrinted item.chars) :
    IsPrinted (itemChars items) := by
  induction items with
  | nil => simp [itemChars]
  | cons item rest ih =>
      rw [List.forall_mem_cons] at all
      simp [itemChars, all.1, ih all.2]

theorem isPrinted_memberChars {members : List (String × Value)}
    (all : ∀ member ∈ members, IsPrinted member.2.chars) : IsPrinted (memberChars members) := by
  induction members with
  | nil => simp [memberChars]
  | cons member rest ih =>
      obtain ⟨name, value⟩ := member
      rw [List.forall_mem_cons] at all
      simp [memberChars, isPrinted_escapedString, all.1, ih all.2]

theorem Exact.isPrinted_chars {value : Value} (exact : value.Exact) : IsPrinted value.chars := by
  induction exact with
  | null => simp [chars]
  | bool value => cases value <;> simp [chars]
  | @integer value least greatest =>
      rw [chars, Number.text_integer, Numeral.text_ofInt]
      split_ifs with negative
      · simp [isPrinted_toDigits]
      · exact isPrinted_toDigits value.natAbs
  | text text => exact isPrinted_escapedString text.toList
  | @list items all ih =>
      cases items with
      | nil => simp [chars]
      | cons item rest =>
          rw [List.forall_mem_cons] at ih
          simp [chars, ih.1, isPrinted_itemChars ih.2]
  | @object members once all ih =>
      cases members with
      | nil => simp [chars]
      | cons member rest =>
          obtain ⟨name, value⟩ := member
          rw [List.forall_mem_cons] at ih
          simp [chars, isPrinted_escapedString, ih.1, isPrinted_memberChars ih.2]

end Value

namespace Value

theorem itemTrees_eq_map (items : List Value) : itemTrees items = items.map tree := by
  induction items with
  | nil => rfl
  | cons item rest ih => rw [itemTrees, ih, List.map_cons]

theorem memberTrees_eq_map (members : List (String × Value)) :
    memberTrees members =
      members.map fun member => (member.1.toList.map pieceOf, member.2.tree) := by
  induction members with
  | nil => rfl
  | cons member rest ih => rw [memberTrees, ih, List.map_cons]

theorem induction {motive : Value → Prop} (null : motive .null) (bool : ∀ b, motive (.bool b))
    (number : ∀ n, motive (.number n)) (text : ∀ s, motive (.text s))
    (list : ∀ items, (∀ item ∈ items, motive item) → motive (.list items))
    (object : ∀ members, (∀ member ∈ members, motive member.2) → motive (.object members))
    (value : Value) : motive value :=
  value.rec null bool number text list object (List.forall_mem_nil _)
    (fun _ _ first rest => List.forall_mem_cons.2 ⟨first, rest⟩) (List.forall_mem_nil _)
    (fun _ _ first rest => List.forall_mem_cons.2 ⟨first, rest⟩) (fun _ _ first => first)

theorem exists_tree_number (n : Number) :
    ∃ numeral : Numeral, numeral.WellFormed ∧ n.text = numeral.text ∧
      (Value.number n).tree = .numeral numeral := by
  obtain ⟨numeral, wellFormed, written⟩ := n.exists_numeral
  cases n with
  | integer value =>
      exact ⟨.ofInt value, Numeral.wellFormed_ofInt value, Number.text_integer value, rfl⟩
  | real x =>
      have scanned := Token.ofText_numeral wellFormed Token.endsNumeral_nil
      rw [List.append_nil, Token.ofText] at scanned
      have spells : (Tree.numeral numeral).Spells (String.ofList numeral.text) :=
        ⟨.numeral numeral, by rw [String.toList_ofList, scanned]; rfl⟩
      have read := ((Tree.spells_iff _ _).1 spells).1
      rw [String.toList_ofList] at read
      refine ⟨numeral, wellFormed, written, ?_⟩
      change (Tree.ofText (x.text numberLayout)).1 = _
      change x.text numberLayout = _ at written
      rw [written, read]

theorem whole_tree (value : Value) : value.tree.Whole := by
  induction value using Value.induction with
  | null => exact .null
  | bool value => exact .bool value
  | number n =>
      obtain ⟨numeral, -, -, tree⟩ := exists_tree_number n
      rw [tree]
      exact .numeral numeral
  | text text => exact .string _
  | list items ih =>
      rw [tree, itemTrees_eq_map]
      exact .list (List.forall_mem_map.2 ih)
  | object members ih =>
      rw [tree, memberTrees_eq_map]
      exact .object (List.forall_mem_map.2 ih)

def WritesTokens (value : Value) : Prop :=
  ∀ rest, Token.EndsNumeral rest →
    Token.ofText (value.chars ++ rest) = value.tree.tokens ++ Token.ofText rest

theorem endsNumeral_itemChars (items : List Value) (rest : List Char) :
    Token.EndsNumeral (itemChars items ++ rest) := by
  cases items with
  | nil => exact Token.endsNumeral_cons (by decide) _
  | cons => exact Token.endsNumeral_cons (by decide) _

theorem endsNumeral_memberChars (members : List (String × Value)) (rest : List Char) :
    Token.EndsNumeral (memberChars members ++ rest) := by
  cases members with
  | nil => exact Token.endsNumeral_cons (by decide) _
  | cons => exact Token.endsNumeral_cons (by decide) _

theorem ofText_itemChars {items : List Value} (all : ∀ item ∈ items, WritesTokens item)
    (rest : List Char) :
    Token.ofText (itemChars items ++ rest) =
      Tree.itemTokens (itemTrees items) ++ .closeList :: Token.ofText rest := by
  induction items with
  | nil => exact Token.ofText_cons rfl rfl
  | cons item items ih =>
      rw [List.forall_mem_cons] at all
      rw [itemChars, itemTrees, Tree.itemTokens, List.cons_append, List.cons_append,
        Token.ofText_cons rfl rfl, List.append_assoc, all.1 _ (endsNumeral_itemChars items rest),
        ih all.2]
      simp

theorem ofText_member {value : Value} (writes : WritesTokens value) (name : String)
    {rest : List Char} (ends : Token.EndsNumeral rest) :
    Token.ofText (escapedString name.toList ++ ':' :: (value.chars ++ rest)) =
      .string (name.toList.map pieceOf) :: .colon :: value.tree.tokens ++ Token.ofText rest := by
  rw [Token.ofText_escapedString, Token.ofText_cons rfl rfl, writes rest ends]
  rfl

theorem ofText_memberChars {members : List (String × Value)}
    (all : ∀ member ∈ members, WritesTokens member.2) (rest : List Char) :
    Token.ofText (memberChars members ++ rest) =
      Tree.memberTokens (memberTrees members) ++ .closeObject :: Token.ofText rest := by
  induction members with
  | nil => exact Token.ofText_cons rfl rfl
  | cons member members ih =>
      obtain ⟨name, value⟩ := member
      rw [List.forall_mem_cons] at all
      have text : memberChars ((name, value) :: members) ++ rest =
          ',' :: (escapedString name.toList ++
            ':' :: (value.chars ++ (memberChars members ++ rest))) := by
        simp [memberChars]
      rw [text, Token.ofText_cons rfl rfl,
        ofText_member all.1 name (endsNumeral_memberChars members rest), ih all.2]
      simp [memberTrees, Tree.memberTokens]

theorem writesTokens_of_word {value : Value} {word : List Char} {token : Token}
    (chars : value.chars = word) (one : value.tree.tokens = [token])
    (scanned : ∀ rest, Token.ofText (word ++ rest) = token :: Token.ofText rest) :
    WritesTokens value := by
  intro rest _
  rw [chars, scanned, one]
  rfl

theorem writesTokens (value : Value) : WritesTokens value := by
  induction value using Value.induction with
  | null => exact writesTokens_of_word rfl rfl fun rest => Token.ofText_cons rfl rfl
  | bool value =>
      cases value with
      | true => exact writesTokens_of_word rfl rfl fun rest => Token.ofText_cons rfl rfl
      | false => exact writesTokens_of_word rfl rfl fun rest => Token.ofText_cons rfl rfl
  | number n =>
      intro rest ends
      obtain ⟨numeral, wellFormed, written, tree⟩ := exists_tree_number n
      rw [chars, written, tree, Token.ofText_numeral wellFormed ends]
      rfl
  | text text => exact writesTokens_of_word rfl rfl (Token.ofText_escapedString text.toList)
  | list items ih =>
      intro rest _
      cases items with
      | nil =>
          change Token.ofText ('[' :: ']' :: rest) = _
          rw [Token.ofText_cons rfl rfl, Token.ofText_cons rfl rfl]
          rfl
      | cons item items =>
          rw [List.forall_mem_cons] at ih
          change Token.ofText ('[' :: (item.chars ++ itemChars items) ++ rest) = _
          rw [List.cons_append, Token.ofText_cons rfl rfl, List.append_assoc,
            ih.1 _ (endsNumeral_itemChars items rest), ofText_itemChars ih.2]
          simp [tree, itemTrees, Tree.tokens, Tree.opened, Tree.itemTokens]
  | object members ih =>
      intro rest _
      cases members with
      | nil =>
          change Token.ofText ('\x7b' :: '\x7d' :: rest) = _
          rw [Token.ofText_cons rfl rfl, Token.ofText_cons rfl rfl]
          rfl
      | cons member members =>
          obtain ⟨name, value⟩ := member
          rw [List.forall_mem_cons] at ih
          have text : (Value.object ((name, value) :: members)).chars ++ rest =
              '\x7b' :: (escapedString name.toList ++
                ':' :: (value.chars ++ (memberChars members ++ rest))) := by
            simp [chars]
          rw [text, Token.ofText_cons rfl rfl,
            ofText_member ih.1 name (endsNumeral_memberChars members rest),
            ofText_memberChars ih.2]
          simp [tree, memberTrees, Tree.tokens, Tree.opened, Tree.memberTokens]

theorem spells_compact (value : Value) : value.tree.Spells value.compact := by
  have written := value.writesTokens [] Token.endsNumeral_nil
  rw [List.append_nil, Token.ofText, List.append_nil] at written
  refine ⟨value.whole_tree, ?_⟩
  rw [compact, String.toList_ofList, written]

end Value

theorem Tree.ofText_chars (value : Value) : Tree.ofText value.chars = (value.tree, false) := by
  have read := ((Tree.spells_iff _ _).1 value.spells_compact).1
  rwa [Value.compact, String.toList_ofList] at read

end LintAdapter.Json
