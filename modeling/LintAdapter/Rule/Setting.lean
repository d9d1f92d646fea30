import LintAdapter.Json.Value

namespace LintAdapter.Rule

open Json (Value)

structure Parameter where
  name : String
  value : Value

namespace Parameter

def unnamedName : String := "unnamedParam"

def unnamed (value : Value) : Parameter := ⟨unnamedName, value⟩

def isUnnamed (parameter : Parameter) : Bool := parameter.name == unnamedName

def toValue (parameter : Parameter) : Value :=
  .object [("name", .text parameter.name), ("value", parameter.value)]

end Parameter

inductive Setting where
  | enabled
  | withOptions (options : List Value)

namespace Setting

def severity : String := "error"

def optionsOf (parameters : List Parameter) : List Value :=
  let positional := (parameters.filter (·.isUnnamed)).map (·.value)
  let named := (parameters.filter (!·.isUnnamed)).map fun parameter =>
    (parameter.name, parameter.value)
  if named.isEmpty then positional else positional ++ [.object (Json.Members.merge named)]

/-- A rule without a parameter list is enabled plainly; an empty list still makes a list. -/
def ofParameters : Option (List Parameter) → Setting
  | none => .enabled
  | some parameters => .withOptions (optionsOf parameters)

def ofDefaults (parameters : List Parameter) : Setting :=
  if parameters.isEmpty then .enabled else ofParameters (some parameters)

def options : Setting → List Value
  | .enabled => []
  | .withOptions options => options

def toValue : Setting → Value
  | .enabled => .text severity
  | .withOptions options => .list (.text severity :: options)

end Setting

end LintAdapter.Rule
