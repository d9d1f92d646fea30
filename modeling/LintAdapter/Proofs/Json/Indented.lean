import LintAdapter.Proofs.Json.Written

namespace LintAdapter.Json

theorem Token.ofText_newLine (level : Nat) (rest : List Char) :
    ofText (Value.newLine level ++ rest) = ofText rest := by
  have spaces (n : Nat) : ofText (List.replicate n ' ' ++ rest) = ofText rest := by
    induction n with
    | zero => rfl
    | succ n ih =>
        rw [List.replicate_succ, List.cons_append, ofText, if_pos (by decide), ih]
  rw [Value.newLine, List.cons_append, ofText, if_pos (by decide), spaces]

namespace Value

def IndentsTokens (value : Value) : Prop :=
  ∀ level rest, Token.EndsNumeral rest →
    Token.ofText (value.prettyChars level ++ rest) = value.tree.tokens ++ Token.ofText rest

theorem endsNumeral_prettyItemChars (level : Nat) (items : List Value) (rest : List Char) :
    Token.EndsNumeral (prettyItemChars level items ++ rest) := by
  cases items with
  | nil => exact Token.endsNumeral_cons (by decide) _
  | cons => exact Token.endsNumeral_cons (by decide) _

theorem endsNumeral_prettyMemberChars (level : Nat) (members : List (String × Value))
    (rest : List Char) : Token.EndsNumeral (prettyMemberChars level members ++ rest) := by
  cases members with
  | nil => exact Token.endsNumeral_cons (by decide) _
  | cons => exact Token.endsNumeral_cons (by decide) _

theorem ofText_prettyItemChars {items : List Value} (all : ∀ item ∈ items, IndentsTokens item)
    (level : Nat) (rest : List Char) :
    Token.ofText (prettyItemChars level items ++ rest) =
      Tree.itemTokens (itemTrees items) ++ .closeList :: Token.ofText rest := by
  induction items with
  | nil =>
      rw [prettyItemChars, List.append_assoc, Token.ofText_newLine]
      exact Token.ofText_cons rfl rfl
  | cons item items ih =>
      rw [List.forall_mem_cons] at all
      rw [prettyItemChars, itemTrees, Tree.itemTokens, List.cons_append, List.cons_append,
        List.cons_append, Token.ofText_cons rfl rfl, List.append_assoc, List.append_assoc,
        Token.ofText_newLine, all.1 _ _ (endsNumeral_prettyItemChars level items rest), ih all.2]
      simp

theorem ofText_prettyMember {value : Value} (writes : IndentsTokens value) (name : String)
    (level : Nat) {rest : List Char} (ends : Token.EndsNumeral rest) :
    Token.ofText (escapedString name.toList ++ ':' :: ' ' :: (value.prettyChars level ++ rest)) =
      .string (name.toList.map pieceOf) :: .colon :: value.tree.tokens ++ Token.ofText rest := by
  rw [Token.ofText_escapedString, Token.ofText_cons rfl rfl, Token.ofText, if_pos (by decide),
    writes level rest ends]
  rfl

theorem ofText_prettyMemberChars {members : List (String × Value)}
    (all : ∀ member ∈ members, IndentsTokens member.2) (level : Nat) (rest : List Char) :
    Token.ofText (prettyMemberChars level members ++ rest) =
      Tree.memberTokens (memberTrees members) ++ .closeObject :: Token.ofText rest := by
  induction members with
  | nil =>
      rw [prettyMemberChars, List.append_assoc, Token.ofText_newLine]
      exact Token.ofText_cons rfl rfl
  | cons member members ih =>
      obtain ⟨name, value⟩ := member
      rw [List.forall_mem_cons] at all
      have text : prettyMemberChars level ((name, value) :: members) ++ rest =
          ',' :: (newLine (level + 1) ++ (escapedString name.toList ++ ':' :: ' ' ::
            (value.prettyChars (level + 1) ++ (prettyMemberChars level members ++ rest)))) := by
        simp [prettyMemberChars]
      rw [text, Token.ofText_cons rfl rfl, Token.ofText_newLine,
        ofText_prettyMember all.1 name _ (endsNumeral_prettyMemberChars level members rest),
        ih all.2]
      simp [memberTrees, Tree.memberTokens]

theorem indentsTokens_of_chars_eq {value : Value}
    (same : ∀ level, value.prettyChars level = value.chars) : IndentsTokens value := by
  intro level rest ends
  rw [same, value.writesTokens rest ends]

theorem indentsTokens (value : Value) : IndentsTokens value := by
  induction value using Value.induction with
  | null => exact indentsTokens_of_chars_eq fun _ => rfl
  | bool value => cases value <;> exact indentsTokens_of_chars_eq fun _ => rfl
  | number n => exact indentsTokens_of_chars_eq fun _ => rfl
  | text text => exact indentsTokens_of_chars_eq fun _ => rfl
  | list items ih =>
      cases items with
      | nil => exact indentsTokens_of_chars_eq fun _ => rfl
      | cons item items =>
          intro level rest _
          rw [List.forall_mem_cons] at ih
          have text : (Value.list (item :: items)).prettyChars level ++ rest =
              '[' :: (newLine (level + 1) ++ (item.prettyChars (level + 1) ++
                (prettyItemChars level items ++ rest))) := by
            simp [prettyChars]
          rw [text, Token.ofText_cons rfl rfl, Token.ofText_newLine,
            ih.1 _ _ (endsNumeral_prettyItemChars level items rest), ofText_prettyItemChars ih.2]
          simp [tree, itemTrees, Tree.tokens, Tree.opened, Tree.itemTokens]
  | object members ih =>
      cases members with
      | nil => exact indentsTokens_of_chars_eq fun _ => rfl
      | cons member members =>
          obtain ⟨name, value⟩ := member
          intro level rest _
          rw [List.forall_mem_cons] at ih
          have text : (Value.object ((name, value) :: members)).prettyChars level ++ rest =
              '\x7b' :: (newLine (level + 1) ++ (escapedString name.toList ++ ':' :: ' ' ::
                (value.prettyChars (level + 1) ++ (prettyMemberChars level members ++ rest)))) := by
            simp [prettyChars]
          rw [text, Token.ofText_cons rfl rfl, Token.ofText_newLine,
            ofText_prettyMember ih.1 name _ (endsNumeral_prettyMemberChars level members rest),
            ofText_prettyMemberChars ih.2]
          simp [tree, memberTrees, Tree.tokens, Tree.opened, Tree.memberTokens]

theorem spells_of_tokens {value : Value} {chars : List Char}
    (written : Token.ofText (chars ++ ['\n']) = value.tree.tokens ++ Token.ofText ['\n']) :
    value.tree.Spells (String.ofList chars ++ "\n") := by
  have nothing : Token.ofText ['\n'] = [] := by
    rw [Token.ofText, if_pos (by decide), Token.ofText]
  refine ⟨value.whole_tree, ?_⟩
  rw [String.toList_append, String.toList_ofList]
  exact written.trans (by rw [nothing, List.append_nil])

theorem spells_line (value : Value) (indented : Bool) :
    value.tree.Spells ((if indented then value.pretty else value.compact) ++ "\n") := by
  have ends : Token.EndsNumeral ['\n'] := Token.endsNumeral_cons (by decide) []
  cases indented with
  | true => exact spells_of_tokens (value.indentsTokens 0 _ ends)
  | false => exact spells_of_tokens (value.writesTokens _ ends)

end Value

end LintAdapter.Json
