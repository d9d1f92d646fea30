import LintAdapter.Json.Fault
import LintAdapter.Rule.Schema

namespace LintAdapter.Rule

open Json (Value Fault Found Number)

structure Metadata where
  deprecated : Bool
  recommended : Bool
  schema : Option Value

namespace Metadata

def found : Value → Found
  | .null => .null
  | .bool value => .bool value
  | .number value => .number value
  | .text value => .text value
  | .list _ => .sequence
  | .object _ => .map

def present : Option Value → Option Value
  | some .null => none
  | value => value

structure Raw where
  deprecated : Option Value
  schema : Option Value
  recommended : Option Value

def recommendedOf : Option Value → Except Fault (Option Value)
  | none => .ok none
  | some (.object members) => .ok (present (members.lookup "recommended"))
  | some (.list []) => .ok none
  | some (.list [value]) => .ok (present (some value))
  | some (.list values) => .error (.wrongLength values.length "fewer elements in array")
  | some other => .error (.wrongType (found other) "struct RawRuleDocs")

def Raw.ofValue : Value → Except Fault Raw
  | .object members => do
    let recommended ← recommendedOf (present (members.lookup "docs"))
    return ⟨present (members.lookup "deprecated"), present (members.lookup "schema"), recommended⟩
  | .list values => do
    let recommended ← recommendedOf (present values[2]?)
    if 3 < values.length then throw (.wrongLength values.length "fewer elements in array")
    return ⟨present values[0]?, present values[1]?, recommended⟩
  | other => .error (.wrongType (found other) "struct RawRuleMeta")

def isTruthy : Value → Bool
  | .null => false
  | .bool value => value
  | .number (.integer value) => value != 0
  | .number (.real value) => !value.isZero
  | .text value => value != ""
  | .list _ => true
  | .object _ => true

def isRecommended : Value → Bool
  | .bool value => value
  | .text tier => tier == "recommended"
  | .object members => ((members.lookup "recommended").map isTruthy).getD false
  | _ => false

def isDeprecated : Value → Bool
  | .bool value => value
  | .object _ => true
  | _ => false

def ofRaw (raw : Raw) : Metadata where
  deprecated := (raw.deprecated.map isDeprecated).getD false
  recommended := (raw.recommended.map isRecommended).getD false
  schema := raw.schema

def ofValue (value : Value) : Except Fault Metadata := ofRaw <$> Raw.ofValue value

def defaults (metadata : Metadata) : List Parameter :=
  match metadata.schema with
  | some schema => Schema.defaults schema
  | none => []

def defaultSetting (metadata : Metadata) : Setting := .ofDefaults metadata.defaults

end Metadata

end LintAdapter.Rule
