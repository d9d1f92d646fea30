import LintAdapter.Toml.Value

namespace LintAdapter.Toml

inductive Origin where
  | header
  | path
  | dotted
  deriving DecidableEq

inductive Node where
  | value (value : Value)
  | table (origin : Origin) (entries : List (String × Node))
  | tables (elements : List (List (String × Node)))

abbrev Entries := List (String × Node)

structure Pair where
  path : List String
  name : String
  value : Value

structure Header where
  repeated : Bool
  path : List String
  name : String

namespace Entries

def put (name : String) (node : Node) : Entries → Entries
  | [] => [(name, node)]
  | (other, held) :: rest =>
    if other = name then (other, node) :: rest else (other, held) :: put name node rest

/-- Changes the table at a path, defining tables on the way. A dotted key does not lead into a table
with a header of its own; a row of tables stands for its last one. -/
def within (dotted : Bool) (change : Origin → Entries → Option Entries) :
    (path : List String) → Origin → Entries → Option Entries
  | [], origin, entries => change origin entries
  | name :: path, _, entries =>
    match entries.lookup name with
    | none => do
      let origin := if dotted then .dotted else .path
      let inner ← within dotted change path origin []
      return put name (.table origin inner) entries
    | some (.table origin inner) =>
      if dotted && origin == .header then none
      else do
        let inner ← within dotted change path origin inner
        return put name (.table origin inner) entries
    | some (.tables elements) =>
      match elements.getLast? with
      | none => none
      | some last => do
        let last ← within dotted change path .header last
        return put name (.tables (elements.dropLast ++ [last])) entries
    | some (.value _) => none

def define (entries : Entries) (pair : Pair) : Option Entries :=
  within true
    (fun origin inner =>
      if (origin == .dotted) == pair.path.isEmpty then none
      else if (inner.lookup pair.name).isSome then none
      else some (inner ++ [(pair.name, .value pair.value)]))
    pair.path .header entries

def defineAll (entries : Entries) (pairs : List Pair) : Option Entries :=
  pairs.foldlM define entries

/-- Adds the table of a header with its pairs. The table may be there already only as the way to
inner tables, or, for a repeated header, as the row that it goes on. -/
def addTable (entries : Entries) (header : Header) (pairs : List Pair) : Option Entries :=
  within false
    (fun _ parent =>
      match header.repeated, parent.lookup header.name with
      | false, none => do
        return put header.name (.table .header (← defineAll [] pairs)) parent
      | false, some (.table .path inner) => do
        return put header.name (.table .header (← defineAll inner pairs)) parent
      | true, none => do
        return put header.name (.tables [← defineAll [] pairs]) parent
      | true, some (.tables elements) => do
        return put header.name (.tables (elements ++ [← defineAll [] pairs])) parent
      | _, _ => none)
    header.path .header entries

end Entries

mutual

def Node.toValue : Node → Value
  | .value value => value
  | .table _ entries => .table (entryValues entries)
  | .tables elements => .array (elementValues elements)

def entryValues : List (String × Node) → List (String × Value)
  | [] => []
  | (name, node) :: rest => (name, node.toValue) :: entryValues rest

def elementValues : List (List (String × Node)) → List Value
  | [] => []
  | entries :: rest => .table (entryValues entries) :: elementValues rest

end

end LintAdapter.Toml
