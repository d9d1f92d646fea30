import LintAdapter.OsString

namespace LintAdapter.Files.Path

def slash : UInt8 := '/'.toUInt8

def isAbsolute (path : OsString) : Bool := path.bytes.head? == some slash

def join (directory path : OsString) : OsString :=
  if isAbsolute path || directory.isEmpty then path
  else if directory.bytes.getLast? = some slash then directory ++ path
  else directory ++ "/" ++ path

def parts (path : OsString) : List OsString := (path.bytes.splitOn slash).map OsString.mk

def ofParts (parts : List OsString) : OsString :=
  ⟨[slash].intercalate (parts.map OsString.bytes)⟩

def isStep (isFirst : Bool) (part : OsString) : Bool := part != "" && (part != "." || isFirst)

def trimmed : List OsString → List OsString
  | [] => []
  | first :: rest =>
    match (rest.reverse.dropWhile (!isStep false ·)).reverse with
    | [] => if isStep true first then [first] else []
    | rest => first :: rest

/-- The directory of a path: the path without its last step. The root and the empty path have
none. -/
def parent? (path : OsString) : Option OsString :=
  match parts path with
  | ⟨[]⟩ :: rest =>
    match (rest.reverse.dropWhile (!isStep false ·)).reverse with
    | [] => none
    | steps =>
      some ("/" ++ ofParts (steps.dropLast.reverse.dropWhile (!isStep false ·)).reverse)
  | steps =>
    match trimmed steps with
    | [] => none
    | steps => some (ofParts (trimmed steps.dropLast))

end LintAdapter.Files.Path
