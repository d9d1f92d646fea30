import LintAdapter.Json.Tree

namespace LintAdapter.Json.Tree

inductive Whole : Tree → Prop
  | null : Whole .null
  | bool (value : Bool) : Whole (.bool value)
  | numeral (value : Numeral) : Whole (.numeral value)
  | string (pieces : List Piece) : Whole (.string pieces)
  | list {items : List Tree} (all : ∀ item ∈ items, Whole item) : Whole (.list items none)
  | object {members : List (List Piece × Tree)} (all : ∀ member ∈ members, Whole member.2) :
      Whole (.object members none)

theorem whole_list_iff (items : List Tree) (stop : Option ListStop) :
    (Tree.list items stop).Whole ↔ (∀ item ∈ items, item.Whole) ∧ stop = none := by
  constructor
  · rintro (_ | _ | _ | _ | all)
    exact ⟨all, rfl⟩
  · rintro ⟨all, rfl⟩
    exact .list all

theorem whole_object_iff (members : List (List Piece × Tree)) (stop : Option ObjectStop) :
    (Tree.object members stop).Whole ↔ (∀ member ∈ members, member.2.Whole) ∧ stop = none := by
  constructor
  · rintro (_ | _ | _ | _ | _ | all)
    exact ⟨all, rfl⟩
  · rintro ⟨all, rfl⟩
    exact .object all

theorem not_whole_broken (why : Break) : ¬ (Tree.broken why).Whole := nofun

/-! ### Tokens -/

/-- What opens with a bracket and goes on with parts that are each led by a comma: the first comma
is left out. -/
def opened (bracket : Token) (led : List Token) : List Token := bracket :: led.tail

theorem opened_append (bracket : Token) {led : List Token} (some : led ≠ []) (more : List Token) :
    opened bracket (led ++ more) = opened bracket led ++ more := by
  rw [opened, opened, List.tail_append_of_ne_nil some, List.cons_append]

mutual

def tokens : Tree → List Token
  | .null => [.null]
  | .bool value => [.bool value]
  | .numeral value => [.numeral value]
  | .string pieces => [.string pieces]
  | .list items _ => opened .openList (itemTokens items) ++ [.closeList]
  | .object members _ => opened .openObject (memberTokens members) ++ [.closeObject]
  | .broken _ => []

def itemTokens : List Tree → List Token
  | [] => []
  | item :: rest => .comma :: item.tokens ++ itemTokens rest

def memberTokens : List (List Piece × Tree) → List Token
  | [] => []
  | (name, value) :: rest => .comma :: .string name :: .colon :: value.tokens ++ memberTokens rest

end

theorem itemTokens_append (first second : List Tree) :
    itemTokens (first ++ second) = itemTokens first ++ itemTokens second := by
  induction first with
  | nil => rfl
  | cons item first ih =>
      rw [List.cons_append, itemTokens, itemTokens, ih]
      simp only [List.cons_append, List.append_assoc]

theorem memberTokens_append (first second : List (List Piece × Tree)) :
    memberTokens (first ++ second) = memberTokens first ++ memberTokens second := by
  induction first with
  | nil => rfl
  | cons member first ih =>
      obtain ⟨name, value⟩ := member
      rw [List.cons_append, memberTokens, memberTokens, ih]
      simp only [List.cons_append, List.append_assoc]

theorem itemTokens_ne_nil {items : List Tree} (some : items ≠ []) : itemTokens items ≠ [] := by
  cases items with
  | nil => exact absurd rfl some
  | cons item rest => exact List.cons_ne_nil _ _

theorem memberTokens_ne_nil {members : List (List Piece × Tree)} (some : members ≠ []) :
    memberTokens members ≠ [] := by
  cases members with
  | nil => exact absurd rfl some
  | cons member rest => exact List.cons_ne_nil _ _

structure Spells (tree : Tree) (text : String) : Prop where
  whole : tree.Whole
  tokens_eq : Token.ofText text.toList = tree.tokens

/-! ### The tokens of a whole tree are read as the tree -/

inductive Awaits : State → List Frame → Prop
  | value (frames : List Frame) : Awaits (.value frames) frames
  | first (frames : List Frame) : Awaits (.list [] frames) (.item [] :: frames)
  | next (before : List Tree) (frames : List Frame) :
      Awaits (.item before frames) (.item before :: frames)

theorem Awaits.step_eq {state : State} {frames : List Frame} (awaits : Awaits state frames)
    {token : Token} (opens : token ≠ .closeList) : step state token = start frames token := by
  cases awaits with
  | value => rfl
  | first => cases token <;> first | rfl | exact absurd rfl opens
  | next => cases token <;> first | rfl | exact absurd rfl opens

theorem build_cons {state next : State} {token : Token} (stepped : step state token = .ok next)
    (rest : List Token) : build state (token :: rest) = build next rest := by
  rw [build, stepped]

/-- Where a value may follow, the tokens of the tree put it in place. -/
def Builds (tree : Tree) : Prop :=
  ∀ (state : State) (frames : List Frame) (rest : List Token), Awaits state frames →
    build state (tree.tokens ++ rest) = build (place tree frames) rest

theorem build_itemTokens {items : List Tree} (all : ∀ item ∈ items, Builds item) (last : Tree)
    (before : List Tree) (frames : List Frame) (rest : List Token) :
    build (.list (last :: before) frames) (itemTokens items ++ .closeList :: rest) =
      build (place (.list ((last :: before).reverse ++ items) none) frames) rest := by
  -- The items that follow are read one by one; those before them are any.
  induction items generalizing last before with
  | nil => rw [itemTokens, List.nil_append, build_cons rfl, List.append_nil]
  | cons item items ih =>
      have builds := all item List.mem_cons_self
      have others := ih fun other member => all other (List.mem_cons_of_mem item member)
      rw [itemTokens, List.cons_append, List.cons_append, build_cons rfl, List.append_assoc,
        builds _ _ _ (.next _ _), place, others, List.reverse_cons (a := item), List.append_assoc]
      rfl

theorem build_member {value : Tree} (builds : Builds value) (name : List Piece) {state : State}
    {before : List (List Piece × Tree)} {frames : List Frame}
    (named : step state (.string name) = .ok (.colon before name frames)) (rest : List Token) :
    build state (.string name :: .colon :: value.tokens ++ rest) =
      build (.object ((name, value) :: before) frames) rest := by
  rw [List.cons_append, List.cons_append, build_cons named, build_cons rfl,
    builds _ _ _ (.value _), place]

theorem build_memberTokens {members : List (List Piece × Tree)}
    (all : ∀ member ∈ members, Builds member.2) (last : List Piece × Tree)
    (before : List (List Piece × Tree)) (frames : List Frame) (rest : List Token) :
    build (.object (last :: before) frames) (memberTokens members ++ .closeObject :: rest) =
      build (place (.object ((last :: before).reverse ++ members) none) frames) rest := by
  induction members generalizing last before with
  | nil => rw [memberTokens, List.nil_append, build_cons rfl, List.append_nil]
  | cons member members ih =>
      obtain ⟨name, value⟩ := member
      have builds : Builds value := all (name, value) List.mem_cons_self
      have others := ih fun other member => all other (List.mem_cons_of_mem _ member)
      have led : memberTokens ((name, value) :: members) ++ .closeObject :: rest =
          .comma :: (.string name :: .colon :: value.tokens ++
            (memberTokens members ++ .closeObject :: rest)) := by
        simp [memberTokens]
      rw [led, build_cons rfl, build_member builds name rfl, others,
        List.reverse_cons (a := (name, value)), List.append_assoc]
      rfl

theorem builds_of_start {tree : Tree} {token : Token} (one : tree.tokens = [token])
    (opens : token ≠ .closeList)
    (started : ∀ frames, start frames token = .ok (place tree frames)) : Builds tree := by
  intro state frames rest awaits
  rw [one, List.singleton_append, build_cons ((awaits.step_eq opens).trans (started frames))]

theorem Whole.builds {tree : Tree} (whole : tree.Whole) : Builds tree := by
  induction whole with
  | null => exact builds_of_start rfl nofun fun _ => rfl
  | bool value => exact builds_of_start rfl nofun fun _ => rfl
  | numeral value => exact builds_of_start rfl nofun fun _ => rfl
  | string pieces => exact builds_of_start rfl nofun fun _ => rfl
  | @list items all ih =>
      intro state frames rest awaits
      have begun : step state .openList = .ok (.list [] frames) := awaits.step_eq nofun
      rw [tokens, opened, List.cons_append, List.cons_append, build_cons begun, List.append_assoc]
      cases items with
      | nil => exact build_cons rfl rest
      | cons item items =>
          have first : Builds item := ih item List.mem_cons_self
          have others := build_itemTokens fun other member => ih other (List.mem_cons_of_mem _ member)
          rw [itemTokens, List.cons_append, List.tail_cons, List.append_assoc,
            first _ _ _ (.first frames), place]
          exact others item [] frames rest
  | @object members all ih =>
      intro state frames rest awaits
      have begun : step state .openObject = .ok (.object [] frames) := awaits.step_eq nofun
      rw [tokens, opened, List.cons_append, List.cons_append, build_cons begun, List.append_assoc]
      cases members with
      | nil => exact build_cons rfl rest
      | cons member members =>
          obtain ⟨name, value⟩ := member
          have first : Builds value := ih (name, value) List.mem_cons_self
          have others := build_memberTokens fun other member =>
            ih other (List.mem_cons_of_mem _ member)
          rw [memberTokens, List.cons_append, List.tail_cons, List.append_assoc,
            build_member first name rfl]
          exact others (name, value) [] frames rest

/-! ### A whole tree is read from its own tokens -/

def itemDue (before : List Tree) : List Token :=
  opened .openList (itemTokens before.reverse ++ [.comma])

def memberDue (before : List (List Piece × Tree)) : List Token :=
  opened .openObject (memberTokens before.reverse ++ [.comma])

def frameTokens : List Frame → List Token
  | [] => []
  | .item before :: frames => frameTokens frames ++ itemDue before
  | .member before name :: frames =>
    frameTokens frames ++ memberDue before ++ [.string name, .colon]

/-- The tokens that lead to a state. -/
def State.tokens : State → List Token
  | .value frames => frameTokens frames
  | .list before frames => frameTokens frames ++ opened .openList (itemTokens before.reverse)
  | .item before frames => frameTokens frames ++ itemDue before
  | .object before frames => frameTokens frames ++ opened .openObject (memberTokens before.reverse)
  | .name before frames => frameTokens frames ++ memberDue before
  | .colon before pieces frames => frameTokens frames ++ memberDue before ++ [.string pieces]
  | .done tree => tree.tokens

theorem opened_reverse_cons_item (item : Tree) (before : List Tree) :
    opened .openList (itemTokens (item :: before).reverse) = itemDue before ++ item.tokens := by
  have led : itemTokens (item :: before).reverse =
      (itemTokens before.reverse ++ [.comma]) ++ item.tokens := by
    simp [itemTokens_append, itemTokens]
  rw [led, itemDue, opened_append _ (by simp)]

theorem opened_reverse_cons_member (name : List Piece) (value : Tree)
    (before : List (List Piece × Tree)) :
    opened .openObject (memberTokens ((name, value) :: before).reverse) =
      memberDue before ++ [.string name, .colon] ++ value.tokens := by
  have led : memberTokens ((name, value) :: before).reverse =
      (memberTokens before.reverse ++ [.comma]) ++ ([.string name, .colon] ++ value.tokens) := by
    simp [memberTokens_append, memberTokens]
  rw [led, memberDue, opened_append _ (by simp), List.append_assoc]

theorem itemDue_of_ne_nil {before : List Tree} (some : before ≠ []) :
    itemDue before = opened .openList (itemTokens before.reverse) ++ [.comma] :=
  opened_append _ (itemTokens_ne_nil (by simpa using some)) _

theorem memberDue_of_ne_nil {before : List (List Piece × Tree)} (some : before ≠ []) :
    memberDue before = opened .openObject (memberTokens before.reverse) ++ [.comma] :=
  opened_append _ (memberTokens_ne_nil (by simpa using some)) _

theorem tokens_place (tree : Tree) (frames : List Frame) :
    (place tree frames).tokens = frameTokens frames ++ tree.tokens := by
  match frames with
  | [] => rfl
  | .item before :: frames =>
      rw [place, State.tokens, opened_reverse_cons_item, frameTokens, List.append_assoc]
  | .member before name :: frames =>
      rw [place, State.tokens, opened_reverse_cons_member, frameTokens]
      simp only [List.append_assoc]

theorem tokens_place_list (before : List Tree) (frames : List Frame) :
    (place (.list before.reverse none) frames).tokens =
      (State.list before frames).tokens ++ [.closeList] := by
  rw [tokens_place, tokens, State.tokens, List.append_assoc]

theorem tokens_place_object (before : List (List Piece × Tree)) (frames : List Frame) :
    (place (.object before.reverse none) frames).tokens =
      (State.object before frames).tokens ++ [.closeObject] := by
  rw [tokens_place, tokens, State.tokens, List.append_assoc]

theorem tokens_start {frames : List Frame} {token : Token} {next : State}
    (started : start frames token = .ok next) : next.tokens = frameTokens frames ++ [token] := by
  cases token <;> cases started
  case openList => rfl
  case openObject => rfl
  all_goals exact tokens_place _ frames

theorem tokens_startName {before : List (List Piece × Tree)} {frames : List Frame} {token : Token}
    {next : State} (started : startName before frames token = .ok next) :
    next.tokens = frameTokens frames ++ memberDue before ++ [token] := by
  cases token <;> cases started
  rfl

theorem tokens_step {state next : State} {token : Token} (stepped : step state token = .ok next) :
    next.tokens = state.tokens ++ [token] := by
  revert stepped
  fun_cases step state token with
  | case1 => exact tokens_start
  | case2 before frames =>
      rintro ⟨⟩
      exact tokens_place_list before frames
  | case3 => exact tokens_start
  | case4 before frames some =>
      rintro ⟨⟩
      rw [State.tokens, State.tokens, itemDue_of_ne_nil some, List.append_assoc]
  | case7 => exact tokens_start
  | case8 before frames =>
      rintro ⟨⟩
      exact tokens_place_object before frames
  | case9 => exact tokens_startName
  | case10 before frames some =>
      rintro ⟨⟩
      rw [State.tokens, State.tokens, memberDue_of_ne_nil some, List.append_assoc]
  | case13 => exact tokens_startName
  | case14 before name frames =>
      rintro ⟨⟩
      exact (List.append_assoc _ [Token.string name] [Token.colon]).symm
  | _ => exact nofun

theorem not_whole_wrap {tree : Tree} (flawed : ¬ tree.Whole) (frames : List Frame) :
    ¬ (wrap tree frames).Whole := by
  induction frames generalizing tree with
  | nil => exact flawed
  | cons frame frames ih =>
      cases frame with
      | item before =>
          refine ih fun whole => flawed ?_
          exact ((whole_list_iff _ _).1 whole).1 tree (by simp)
      | member before name =>
          refine ih fun whole => flawed ?_
          exact ((whole_object_iff _ _).1 whole).1 (name, tree) (by simp)

theorem not_whole_stopList (before : List Tree) (frames : List Frame) (stop : ListStop) :
    ¬ (stopList before frames stop).Whole := by
  refine not_whole_wrap (fun whole => ?_) frames
  cases ((whole_list_iff _ _).1 whole).2

theorem not_whole_stopObject (before : List (List Piece × Tree)) (frames : List Frame)
    (stop : ObjectStop) : ¬ (stopObject before frames stop).Whole := by
  refine not_whole_wrap (fun whole => ?_) frames
  cases ((whole_object_iff _ _).1 whole).2

theorem eq_done_of_whole_finish {state : State} (whole : (finish state).Whole) :
    state = .done (finish state) := by
  cases state with
  | value frames => exact absurd whole (not_whole_wrap (not_whole_broken _) frames)
  | list before frames => exact absurd whole (not_whole_stopList _ _ _)
  | item before frames => exact absurd whole (not_whole_stopList _ _ _)
  | object before frames => exact absurd whole (not_whole_stopObject _ _ _)
  | name before frames => exact absurd whole (not_whole_stopObject _ _ _)
  | colon before name frames => exact absurd whole (not_whole_wrap (not_whole_broken _) _)
  | done tree => rfl

theorem tokens_build {state : State} {tokens : List Token} {tree : Tree} (whole : tree.Whole)
    (built : build state tokens = (tree, [])) : state.tokens ++ tokens = tree.tokens := by
  -- Reading stops with tokens left wherever a step fails, and at the end only in a last state.
  induction tokens generalizing state with
  | nil =>
      cases built
      rw [eq_done_of_whole_finish whole, List.append_nil]
      rfl
  | cons token rest ih =>
      rw [build] at built
      cases stepped : step state token with
      | error stopped =>
          rw [stepped] at built
          cases built
      | ok next =>
          rw [stepped] at built
          rw [← ih built, tokens_step stepped, List.append_assoc]
          rfl

theorem ofText_eq_iff (text : List Char) (tree : Tree) :
    ofText text = (tree, false) ↔ build (.value []) (Token.ofText text) = (tree, []) := by
  rw [ofText]
  obtain ⟨built, rest⟩ := build (.value []) (Token.ofText text)
  simp

theorem spells_iff (tree : Tree) (text : String) :
    tree.Spells text ↔ ofText text.toList = (tree, false) ∧ tree.Whole := by
  rw [ofText_eq_iff]
  constructor
  · rintro ⟨whole, same⟩
    have built := whole.builds _ _ [] (.value [])
    rw [List.append_nil, ← same] at built
    exact ⟨built, whole⟩
  · rintro ⟨built, whole⟩
    exact ⟨whole, tokens_build whole built⟩

theorem Spells.unique {tree other : Tree} {text : String} (spells : tree.Spells text)
    (spellsOther : other.Spells text) : other = tree := by
  have read := ((spells_iff tree text).1 spells).1
  rw [((spells_iff other text).1 spellsOther).1] at read
  exact (Prod.mk.inj read).1

end LintAdapter.Json.Tree
