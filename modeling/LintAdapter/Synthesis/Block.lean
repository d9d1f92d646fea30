import LintAdapter.Rule.Scope
import LintAdapter.Rule.Setting

namespace LintAdapter

open Json (Value)
open Rule (Scope Setting)

abbrev RuleSettings := List (String × Setting)

namespace RuleSettings

def insert (id : String) (setting : Setting) : RuleSettings → RuleSettings
  | [] => [(id, setting)]
  | (other, held) :: rest =>
    if id = other then (id, setting) :: rest
    else if id < other then (id, setting) :: (other, held) :: rest
    else (other, held) :: insert id setting rest

def collect (rules : RuleSettings) : RuleSettings :=
  rules.foldl (fun collected rule => insert rule.1 rule.2 collected) []

def toValue (rules : RuleSettings) : Value :=
  .object (rules.map fun (id, setting) => (id, setting.toValue))

end RuleSettings

inductive Block where
  | base
  | rules (files : Option (List String)) (rules : RuleSettings)

namespace Block

def parserSettings : Value :=
  .object [
    ("ecmaVersion", .text "latest"),
    ("sourceType", .text "module"),
    ("parserOptions", .object [("ecmaFeatures", .object [("jsx", .bool true)])])]

def toValue : Block → Value
  | .base => .object [("languageOptions", parserSettings)]
  | .rules files settings =>
    .object (Value.optionalMember "files" (fun globs => .list (globs.map .text)) files ++
      (if settings.isEmpty then [] else [("rules", settings.toValue)]))

def enabled : Block → RuleSettings
  | .base => []
  | .rules _ settings => settings

def scopesOf (rules : RuleSettings) : List Scope :=
  (rules.filterMap fun rule => Rule.scope? rule.1).eraseDups

def rulesIn (scope : Option Scope) (rules : RuleSettings) : RuleSettings :=
  RuleSettings.collect (rules.filter fun rule => Rule.scope? rule.1 = scope)

def ofScope (rules : RuleSettings) (scope : Scope) : Block :=
  .rules (some scope.files) (rulesIn (some scope) rules)

def general (rules : RuleSettings) : List Block :=
  match rulesIn none rules with
  | [] => []
  | settings => [.rules none settings]

def ofRules (rules : RuleSettings) : List Block :=
  .base :: (scopesOf rules).map (ofScope rules) ++ general rules

end Block

end LintAdapter
