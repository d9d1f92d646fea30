import LintAdapter.Proofs.Json.Members
import LintAdapter.Proofs.Json.Numeral
import LintAdapter.Proofs.Json.Spelled

namespace LintAdapter.Json

def OpensObject (text : List Char) : Prop :=
  ∃ space rest, text = space ++ '\x7b' :: rest ∧ ∀ c ∈ space, Token.isSpace c

namespace Token

theorem ofText_append_of_spaces {space : List Char} (spaces : ∀ c ∈ space, isSpace c)
    (rest : List Char) : ofText (space ++ rest) = ofText rest := by
  induction space with
  | nil => rfl
  | cons c space ih =>
      rw [List.forall_mem_cons] at spaces
      rw [List.cons_append, ofText, if_pos spaces.1, ih spaces.2]

end Token

namespace Tree

inductive IsObject : Tree → Prop
  | object (members : List (List Piece × Tree)) (stop : Option ObjectStop) :
      IsObject (.object members stop)

inductive InObject : List Frame → Prop
  | outermost (before : List (List Piece × Tree)) (name : List Piece) :
      InObject [.member before name]
  | inside (frame : Frame) {frames : List Frame} (inObject : InObject frames) :
      InObject (frame :: frames)

inductive Opened : State → Prop
  | value {frames : List Frame} (inObject : InObject frames) : Opened (.value frames)
  | list (before : List Tree) {frames : List Frame} (inObject : InObject frames) :
      Opened (.list before frames)
  | item (before : List Tree) {frames : List Frame} (inObject : InObject frames) :
      Opened (.item before frames)
  | object (before : List (List Piece × Tree)) {frames : List Frame}
      (inObject : frames = [] ∨ InObject frames) : Opened (.object before frames)
  | name (before : List (List Piece × Tree)) {frames : List Frame}
      (inObject : frames = [] ∨ InObject frames) : Opened (.name before frames)
  | colon (before : List (List Piece × Tree)) (name : List Piece) {frames : List Frame}
      (inObject : frames = [] ∨ InObject frames) : Opened (.colon before name frames)
  | done {tree : Tree} (isObject : IsObject tree) : Opened (.done tree)

/-- A step leads to a state in which the object is open, or stops with the tree of an object. -/
def KeepsOpen : Except Tree State → Prop
  | .ok state => Opened state
  | .error tree => IsObject tree

theorem inObject_member {frames : List Frame} (inObject : frames = [] ∨ InObject frames)
    (before : List (List Piece × Tree)) (name : List Piece) :
    InObject (.member before name :: frames) := by
  rcases inObject with rfl | inObject
  · exact .outermost before name
  · exact .inside _ inObject

theorem InObject.wrap {frames : List Frame} (inObject : InObject frames) (tree : Tree) :
    IsObject (wrap tree frames) := by
  induction inObject generalizing tree with
  | outermost before name => exact .object _ _
  | inside frame inObject ih =>
      cases frame with
      | item before => exact ih _
      | member before name => exact ih _

theorem isObject_stopObject {frames : List Frame} (inObject : frames = [] ∨ InObject frames)
    (before : List (List Piece × Tree)) (stop : ObjectStop) :
    IsObject (stopObject before frames stop) := by
  rcases inObject with rfl | inObject
  · exact .object _ _
  · exact inObject.wrap _

theorem InObject.place {frames : List Frame} (inObject : InObject frames) (tree : Tree) :
    Opened (place tree frames) := by
  cases inObject with
  | outermost before name => exact .object _ (.inl rfl)
  | inside frame inObject =>
      cases frame with
      | item before => exact .list _ inObject
      | member before name => exact .object _ (.inr inObject)

theorem opened_place_object {frames : List Frame} (inObject : frames = [] ∨ InObject frames)
    (members : List (List Piece × Tree)) : Opened (place (.object members none) frames) := by
  rcases inObject with rfl | inObject
  · exact .done (.object _ _)
  · exact inObject.place _

theorem keepsOpen_start {frames : List Frame} (inObject : InObject frames) (token : Token) :
    KeepsOpen (start frames token) := by
  cases token with
  | openList => exact .list [] inObject
  | openObject => exact .object [] (.inr inObject)
  | null => exact inObject.place _
  | bool value => exact inObject.place _
  | numeral value => exact inObject.place _
  | string pieces => exact inObject.place _
  | _ => exact inObject.wrap _

theorem keepsOpen_startName {frames : List Frame} (inObject : frames = [] ∨ InObject frames)
    (before : List (List Piece × Tree)) (token : Token) :
    KeepsOpen (startName before frames token) := by
  cases token with
  | string pieces => exact .colon before pieces inObject
  | _ => exact isObject_stopObject inObject _ _

theorem Opened.step {state : State} (opened : Opened state) (token : Token) :
    KeepsOpen (step state token) := by
  fun_cases Tree.step state token with
  | case1 => cases opened with | value inObject => exact keepsOpen_start inObject token
  | case2 => cases opened with | list before inObject => exact inObject.place _
  | case3 =>
      cases opened with | list before inObject => exact keepsOpen_start (.inside _ inObject) token
  | case4 => cases opened with | list before inObject => exact .item _ inObject
  | case5 => cases opened with | list before inObject => exact inObject.wrap _
  | case6 => cases opened with | item before inObject => exact inObject.wrap _
  | case7 =>
      cases opened with | item before inObject => exact keepsOpen_start (.inside _ inObject) token
  | case8 => cases opened with | object before inObject => exact opened_place_object inObject _
  | case9 => cases opened with | object before inObject => exact keepsOpen_startName inObject _ token
  | case10 => cases opened with | object before inObject => exact .name _ inObject
  | case11 => cases opened with | object before inObject => exact isObject_stopObject inObject _ _
  | case12 => cases opened with | name before inObject => exact isObject_stopObject inObject _ _
  | case13 => cases opened with | name before inObject => exact keepsOpen_startName inObject _ token
  | case14 =>
      cases opened with | colon before name inObject => exact .value (inObject_member inObject _ _)
  | case15 =>
      cases opened with | colon before name inObject => exact (inObject_member inObject _ _).wrap _
  | case16 => cases opened with | done isObject => exact isObject

theorem Opened.finish {state : State} (opened : Opened state) : IsObject (finish state) := by
  cases opened with
  | value inObject => exact inObject.wrap _
  | list before inObject => exact inObject.wrap _
  | item before inObject => exact inObject.wrap _
  | object before inObject => exact isObject_stopObject inObject _ _
  | name before inObject => exact isObject_stopObject inObject _ _
  | colon before name inObject => exact (inObject_member inObject before name).wrap _
  | done isObject => exact isObject

theorem Opened.build {state : State} (opened : Opened state) (tokens : List Token) :
    IsObject (build state tokens).1 := by
  induction tokens generalizing state with
  | nil => exact opened.finish
  | cons token rest ih =>
      have kept := opened.step token
      rw [Tree.build]
      cases stepped : Tree.step state token with
      | ok next =>
          rw [stepped] at kept
          exact ih kept
      | error tree =>
          rw [stepped] at kept
          exact kept

theorem isObject_ofText {text : List Char} (opens : OpensObject text) :
    IsObject (ofText text).1 := by
  obtain ⟨space, rest, rfl, spaces⟩ := opens
  have first : build (.value []) (.openObject :: Token.ofText rest) =
      build (.object [] []) (Token.ofText rest) := rfl
  rw [ofText, Token.ofText_append_of_spaces spaces, Token.ofText_cons rfl rfl, first]
  exact (Opened.object [] (.inl rfl)).build _

end Tree

namespace Decoder

def mergedMembersOf (value : Value) : List (String × Value) :=
  Members.merge (Value.mergedMembers (value.members?.getD []))

theorem members_eq_map (room : Nat) {tree : Tree} (isObject : tree.IsObject) :
    Decoder.members room tree = mergedMembersOf <$> rawValue room tree := by
  cases isObject with
  | object members stop =>
      rw [Decoder.members, rawValue, Tree.value]
      split_ifs
      · rfl
      · cases Tree.valueMembers (room - 1) members with
        | error fault => rfl
        | ok values => cases closedObject stop <;> rfl

theorem document_members_eq_map {text : String} (opens : OpensObject text.toList) :
    document Decoder.members text = mergedMembersOf <$> document rawValue text := by
  have isObject := Tree.isObject_ofText opens
  rw [document, document]
  generalize Tree.ofText text.toList = read at isObject
  obtain ⟨tree, more⟩ := read
  dsimp only
  rw [members_eq_map documentRoom isObject]
  cases rawValue documentRoom tree with
  | error fault => rfl
  | ok value => cases more <;> rfl

theorem document_members_eq_error_iff {text : String} (opens : OpensObject text.toList)
    (fault : Fault) :
    document Decoder.members text = .error fault ↔ document rawValue text = .error fault := by
  rw [document_members_eq_map opens]
  cases document rawValue text with
  | error other => exact Iff.of_eq (by rw [Except.error.injEq]; exact Except.error.injEq other fault)
  | ok value => exact iff_of_false (fun equal => nomatch equal) fun equal => nomatch equal

end Decoder

end LintAdapter.Json
