import LintAdapter.Number.Binary64

namespace LintAdapter.Json

/-- A number: whole numbers stay whole while they fit in 64 bits. -/
inductive Number where
  | integer (value : Int)
  | real (value : LintAdapter.Number.Binary64)
  deriving DecidableEq

inductive Value where
  | null
  | bool (value : Bool)
  | number (value : Number)
  | text (value : String)
  | list (items : List Value)
  | object (members : List (String × Value))

namespace Members

variable {α : Type}

def insert : List (String × α) → String → α → List (String × α)
  | [], name, value => [(name, value)]
  | (other, held) :: rest, name, value =>
    if other = name then (other, value) :: rest else (other, held) :: insert rest name value

/-- Each name once, in the place where it first stands, with the value it has last. -/
def merge (members : List (String × α)) : List (String × α) :=
  members.foldl (fun merged member => insert merged member.1 member.2) []

end Members

namespace Value

def ofNat (n : Nat) : Value := .number (.integer n)

def orNull (write : α → Value) : Option α → Value
  | some a => write a
  | none => .null

def optionalMember (name : String) (write : α → Value) : Option α → List (String × Value)
  | some a => [(name, write a)]
  | none => []

def get? (name : String) : Value → Option Value
  | .object members => members.lookup name
  | _ => none

def items? : Value → Option (List Value)
  | .list items => some items
  | _ => none

def members? : Value → Option (List (String × Value))
  | .object members => some members
  | _ => none

def text? : Value → Option String
  | .text s => some s
  | _ => none

mutual

def merged : Value → Value
  | .list items => .list (mergedItems items)
  | .object members => .object (Members.merge (mergedMembers members))
  | .null => .null
  | .bool b => .bool b
  | .number n => .number n
  | .text s => .text s

def mergedItems : List Value → List Value
  | [] => []
  | item :: rest => item.merged :: mergedItems rest

def mergedMembers : List (String × Value) → List (String × Value)
  | [] => []
  | (name, value) :: rest => (name, value.merged) :: mergedMembers rest

end

end Value

end LintAdapter.Json
