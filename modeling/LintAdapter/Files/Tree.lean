import LintAdapter.Files.Path

namespace LintAdapter.Files

/-- Where a path begins: at the root, or so many levels above the working directory. -/
inductive Anchor where
  | root
  | above (levels : Nat)
  deriving DecidableEq

structure Place where
  anchor : Anchor
  names : List OsString
  deriving DecidableEq

inductive Entry where
  | file (content : ByteArray)
  | directory

inductive Failure where
  | notFound
  | notDirectory
  | isDirectory
  | nameTooLong
  | zeroByte
  | notText
  deriving DecidableEq

def Failure.message : Failure → String
  | .notFound => "No such file or directory (os error 2)"
  | .notDirectory => "Not a directory (os error 20)"
  | .isDirectory => "Is a directory (os error 21)"
  | .nameTooLong => "File name too long (os error 36)"
  | .zeroByte => "file name contained an unexpected NUL byte"
  | .notText => "stream did not contain valid UTF-8"

namespace Place

def here : Place := ⟨.above 0, []⟩

def start (path : OsString) : Place := if Path.isAbsolute path then ⟨.root, []⟩ else here

def parent (place : Place) : Place :=
  match place.names, place.anchor with
  | [], .root => place
  | [], .above levels => ⟨.above (levels + 1), []⟩
  | names, anchor => ⟨anchor, names.dropLast⟩

def child (place : Place) (name : OsString) : Place := ⟨place.anchor, place.names ++ [name]⟩

def step (place : Place) (part : OsString) : Place :=
  if part = "" ∨ part = "." then place
  else if part = ".." then place.parent
  else place.child part

def ofPath (path : OsString) : Place := (Path.parts path).foldl step (start path)

end Place

structure Tree where
  working : List OsString
  /-- What the names lead to from the root; an earlier entry hides a later one of the same names. -/
  entries : List (List OsString × Entry)

namespace Tree

def empty (working : List OsString := ["work"]) : Tree := ⟨working, []⟩

def locate (tree : Tree) (place : Place) : List OsString :=
  match place.anchor with
  | .root => place.names
  | .above levels => tree.working.take (tree.working.length - levels) ++ place.names

def at? (tree : Tree) (names : List OsString) : Option Entry :=
  if names.isPrefixOf tree.working then some .directory else tree.entries.lookup names

def find? (tree : Tree) (place : Place) : Option Entry := tree.at? (tree.locate place)

def hasFile (tree : Tree) (names : List OsString) : Bool :=
  match tree.at? names with
  | some (.file _) => true
  | _ => false

def hasDirectory (tree : Tree) (names : List OsString) : Bool :=
  match tree.at? names with
  | some .directory => true
  | _ => false

def put (tree : Tree) (names : List OsString) (entry : Entry) : Tree :=
  { tree with entries := (names, entry) :: tree.entries }

def lineage (names : List OsString) : List (List OsString) :=
  (List.range names.length).map fun count => names.take (count + 1)

def fill (tree : Tree) (names : List OsString) : Tree :=
  (lineage names).foldl (fun tree above =>
    if (tree.at? above).isNone then tree.put above .directory else tree) tree

def isBlocked (tree : Tree) (names : List OsString) : Bool := (lineage names).any tree.hasFile

def makeDirectory (tree : Tree) (place : Place) : Tree :=
  if tree.isBlocked (tree.locate place) then tree else tree.fill (tree.locate place)

def isWritable (tree : Tree) (names : List OsString) : Bool :=
  !tree.isBlocked names.dropLast && !tree.hasDirectory names

def write (tree : Tree) (place : Place) (content : ByteArray) : Tree :=
  let names := tree.locate place
  if tree.isWritable names then (tree.fill names.dropLast).put names (.file content) else tree

def remove (tree : Tree) (place : Place) : Tree :=
  { tree with entries := tree.entries.filter fun entry =>
      !(tree.locate place).isPrefixOf entry.1 }

def follow (tree : Tree) : Place → Entry → List OsString → Except Failure Entry
  | _, entry, [] => .ok entry
  | _, .file _, _ :: _ => .error .notDirectory
  | place, .directory, part :: rest =>
    if 255 < part.length then .error .nameTooLong
    else match tree.find? (place.step part) with
      | none => .error .notFound
      | some entry => tree.follow (place.step part) entry rest

def look (tree : Tree) (path : OsString) : Except Failure Entry :=
  if path.bytes.contains 0 then .error .zeroByte
  else if path.isEmpty then .error .notFound
  else if 4095 < path.length then .error .nameTooLong
  else tree.follow (Place.start path) .directory (Path.parts path)

def isFile (tree : Tree) (path : OsString) : Bool :=
  match tree.look path with
  | .ok (.file _) => true
  | _ => false

def isDirectory (tree : Tree) (path : OsString) : Bool :=
  match tree.look path with
  | .ok .directory => true
  | _ => false

def isThere (tree : Tree) (path : OsString) : Bool := (tree.look path).toOption.isSome

def read (tree : Tree) (path : OsString) : Except Failure String :=
  match tree.look path with
  | .error failure => .error failure
  | .ok .directory => .error .isDirectory
  | .ok (.file content) =>
    match String.fromUTF8? content with
    | some text => .ok text
    | none => .error .notText

end Tree

end LintAdapter.Files
