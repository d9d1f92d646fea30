import LintAdapter.Json.Token

namespace LintAdapter.Json

inductive Break where
  | endOfText
  | unexpected
  | word (flaw : Flaw)
  | numeral (flaw : Flaw)
  | string (pieces : List Piece) (flaw : StringFlaw)
  | noColon
  | endBeforeColon

inductive ListStop where
  | endOfText
  | endAfterComma
  | closedAfterComma
  | noComma

inductive ObjectStop where
  | endOfText
  | endAfterComma
  | closedAfterComma
  | noComma
  | noName
  | badName (pieces : List Piece) (flaw : StringFlaw)

inductive Tree where
  | null
  | bool (value : Bool)
  | numeral (value : Numeral)
  | string (pieces : List Piece)
  | list (items : List Tree) (stop : Option ListStop)
  | object (members : List (List Piece × Tree)) (stop : Option ObjectStop)
  | broken (why : Break)

namespace Tree

inductive Frame where
  | item (before : List Tree)
  | member (before : List (List Piece × Tree)) (name : List Piece)

/-- What the tokens so far leave open, with the waiting frames around it, the innermost first. -/
inductive State where
  | value (frames : List Frame)
  | list (before : List Tree) (frames : List Frame)
  | item (before : List Tree) (frames : List Frame)
  | object (before : List (List Piece × Tree)) (frames : List Frame)
  | name (before : List (List Piece × Tree)) (frames : List Frame)
  | colon (before : List (List Piece × Tree)) (name : List Piece) (frames : List Frame)
  | done (tree : Tree)

def place (tree : Tree) : List Frame → State
  | [] => .done tree
  | .item before :: frames => .list (tree :: before) frames
  | .member before name :: frames => .object ((name, tree) :: before) frames

def wrap (tree : Tree) : List Frame → Tree
  | [] => tree
  | .item before :: frames => wrap (.list (tree :: before).reverse none) frames
  | .member before name :: frames => wrap (.object ((name, tree) :: before).reverse none) frames

def start (frames : List Frame) : Token → Except Tree State
  | .null => .ok (place .null frames)
  | .bool value => .ok (place (.bool value) frames)
  | .numeral value => .ok (place (.numeral value) frames)
  | .string pieces => .ok (place (.string pieces) frames)
  | .openList => .ok (.list [] frames)
  | .openObject => .ok (.object [] frames)
  | .badString pieces flaw => .error (wrap (.broken (.string pieces flaw)) frames)
  | .badNumeral flaw => .error (wrap (.broken (.numeral flaw)) frames)
  | .badWord flaw => .error (wrap (.broken (.word flaw)) frames)
  | .closeList | .closeObject | .comma | .colon | .stray =>
    .error (wrap (.broken .unexpected) frames)

def stopList (before : List Tree) (frames : List Frame) (stop : ListStop) : Tree :=
  wrap (.list before.reverse (some stop)) frames

def stopObject (before : List (List Piece × Tree)) (frames : List Frame) (stop : ObjectStop) :
    Tree :=
  wrap (.object before.reverse (some stop)) frames

def startName (before : List (List Piece × Tree)) (frames : List Frame) :
    Token → Except Tree State
  | .string pieces => .ok (.colon before pieces frames)
  | .badString pieces flaw => .error (stopObject before frames (.badName pieces flaw))
  | _ => .error (stopObject before frames .noName)

def step : State → Token → Except Tree State
  | .value frames, token => start frames token
  | .list before frames, .closeList => .ok (place (.list before.reverse none) frames)
  | .list [] frames, token => start (.item [] :: frames) token
  | .list before frames, .comma => .ok (.item before frames)
  | .list before frames, _ => .error (stopList before frames .noComma)
  | .item before frames, .closeList => .error (stopList before frames .closedAfterComma)
  | .item before frames, token => start (.item before :: frames) token
  | .object before frames, .closeObject => .ok (place (.object before.reverse none) frames)
  | .object [] frames, token => startName [] frames token
  | .object before frames, .comma => .ok (.name before frames)
  | .object before frames, _ => .error (stopObject before frames .noComma)
  | .name before frames, .closeObject => .error (stopObject before frames .closedAfterComma)
  | .name before frames, token => startName before frames token
  | .colon before name frames, .colon => .ok (.value (.member before name :: frames))
  | .colon before name frames, _ => .error (wrap (.broken .noColon) (.member before name :: frames))
  | .done tree, _ => .error tree

def finish : State → Tree
  | .value frames => wrap (.broken .endOfText) frames
  | .list before frames => stopList before frames .endOfText
  | .item before frames => stopList before frames .endAfterComma
  | .object before frames => stopObject before frames .endOfText
  | .name before frames => stopObject before frames .endAfterComma
  | .colon before name frames => wrap (.broken .endBeforeColon) (.member before name :: frames)
  | .done tree => tree

def build : State → List Token → Tree × List Token
  | state, [] => (finish state, [])
  | state, token :: rest =>
    match step state token with
    | .ok next => build next rest
    | .error tree => (tree, token :: rest)

def ofText (text : List Char) : Tree × Bool :=
  let (tree, rest) := build (.value []) (Token.ofText text)
  (tree, !rest.isEmpty)

end Tree

end LintAdapter.Json
