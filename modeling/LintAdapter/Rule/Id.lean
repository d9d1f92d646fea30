/-!
Rule ids. The linter writes `plugin/rule`; the platform forbids the slash and writes an underscore
in its place.
-/

namespace LintAdapter.Rule

def platformChar (c : Char) : Char := if c = '/' then '_' else c

def linterChar (c : Char) : Char := if c = '_' then '/' else c

def toPlatformId (id : String) : String := id.map platformChar

def ofPlatformId (id : String) : String := id.map linterChar

def placeholderId : String := ""

def toPlatformIdOrPlaceholder : Option String → String
  | some id => toPlatformId id
  | none => placeholderId

def plugin? (id : String) : Option String :=
  match id.toList.reverse.dropWhile (· ≠ '/') with
  | [] => none
  | _ :: reversed => some (String.ofList reversed.reverse)

end LintAdapter.Rule
