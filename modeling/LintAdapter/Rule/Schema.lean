import LintAdapter.Rule.Setting

namespace LintAdapter.Rule.Schema

open Json (Value)

def firstItem? : Value → Option Value
  | .list items => items.head?
  | .object members => match members.lookup "items" with
    | some (.list items) => items.head?
    | some (.object item) => some (.object item)
    | some _ => none
    | none =>
      if (members.lookup "type").bind Value.text? = some "array" then none
      else some (.object members)
  | _ => none

def positionalDefault? (item : Value) : Option Value :=
  match item.get? "default" with
  | some value => some value
  | none => ((item.get? "enum").bind Value.items?).bind List.head?

def propertyDefaults (properties : List (String × Value)) : List Parameter :=
  properties.filterMap fun (name, property) => (property.get? "default").map (⟨name, ·⟩)

def itemDefaults (item : Value) : List Parameter :=
  match (item.get? "properties").bind Value.members? with
  | some properties => propertyDefaults properties
  | none => (positionalDefault? item).toList.map Parameter.unnamed

def defaults (schema : Value) : List Parameter :=
  match firstItem? schema with
  | some item => itemDefaults item
  | none => []

end LintAdapter.Rule.Schema
