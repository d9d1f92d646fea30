import LintAdapter.Files.Tree
import LintAdapter.Proofs.OsString

namespace LintAdapter.Files

def longestPath : Nat := 4095

def Tree.holdsFile (tree : Tree) (place : Place) : Bool := tree.hasFile (tree.locate place)

structure Path.IsName (name : OsString) : Prop where
  noSlash : slash ∉ name.bytes
  noZero : 0 ∉ name.bytes
  notEmpty : name ≠ ""
  notHere : name ≠ "."
  notUp : name ≠ ".."
  short : name.length ≤ 255

instance (name : OsString) : Decidable (Path.IsName name) :=
  decidable_of_iff (Path.slash ∉ name.bytes ∧ 0 ∉ name.bytes ∧ name ≠ "" ∧ name ≠ "." ∧
      name ≠ ".." ∧ name.length ≤ 255)
    ⟨fun ⟨noSlash, noZero, notEmpty, notHere, notUp, short⟩ =>
      ⟨noSlash, noZero, notEmpty, notHere, notUp, short⟩,
    fun ⟨noSlash, noZero, notEmpty, notHere, notUp, short⟩ =>
      ⟨noSlash, noZero, notEmpty, notHere, notUp, short⟩⟩

namespace Path

theorem parts_append_slash (directory rest : OsString) :
    parts (directory ++ "/" ++ rest) = parts directory ++ parts rest := by
  have separated : (directory ++ "/" ++ rest).bytes = directory.bytes ++ slash :: rest.bytes := by
    rw [OsString.append_assoc]
    rfl
  rw [parts, separated, List.splitOn_append_cons_self, List.map_append]
  rfl

theorem IsName.parts_eq {name : OsString} (isName : IsName name) : parts name = [name] := by
  rw [parts, List.splitOn_eq_singleton isName.noSlash, List.map_singleton]

theorem parts_empty : parts "" = [("" : OsString)] := rfl

@[simp] theorem bytes_slash : ("/" : OsString).bytes = [slash] := rfl

theorem IsName.isAbsolute_eq_false {name : OsString} (isName : IsName name) :
    isAbsolute name = false := by
  rw [isAbsolute, beq_eq_false_iff_ne]
  intro first
  exact isName.noSlash (List.mem_of_mem_head? first)

theorem isAbsolute_append {directory : OsString} (notEmpty : directory ≠ "") (rest : OsString) :
    isAbsolute (directory ++ rest) = isAbsolute directory := by
  obtain ⟨byte, more, bytes⟩ :=
    List.exists_cons_of_ne_nil (mt OsString.bytes_eq_nil_iff.1 notEmpty)
  rw [isAbsolute, isAbsolute, OsString.bytes_append, bytes, List.cons_append]
  rfl

theorem eq_append_slash {directory : OsString} (closed : directory.bytes.getLast? = some slash) :
    ∃ front : OsString, directory = front ++ "/" := by
  obtain ⟨front, bytes⟩ := List.getLast?_eq_some_iff.1 closed
  exact ⟨⟨front⟩, OsString.ext bytes⟩

theorem join_cases {directory : OsString} (notEmpty : directory ≠ "") {name : OsString}
    (isName : IsName name) :
    join directory name = directory ++ "/" ++ name ∨
      ∃ front : OsString, directory = front ++ "/" ∧
        join directory name = front ++ "/" ++ name := by
  have there : directory.isEmpty = false := by
    rw [← Bool.not_eq_true, OsString.isEmpty_iff]
    exact notEmpty
  rw [join, isName.isAbsolute_eq_false, there, if_neg (by decide)]
  split_ifs with closed
  · obtain ⟨front, cut⟩ := eq_append_slash closed
    exact .inr ⟨front, cut, by rw [← cut]⟩
  · exact .inl rfl

end Path

namespace Tree

theorem at?_of_prefix {tree : Tree} {names : List OsString} (above : names <+: tree.working) :
    tree.at? names = some .directory :=
  if_pos (List.isPrefixOf_iff_prefix.2 above)

theorem find?_of_names_eq_nil (tree : Tree) {place : Place} (top : place.names = []) :
    tree.find? place = some .directory := by
  refine at?_of_prefix ?_
  rw [locate, top]
  cases place.anchor with
  | root => exact List.nil_prefix
  | above levels =>
      dsimp only
      rw [List.append_nil]
      exact List.take_prefix _ _

end Tree

namespace Tree

theorem follow_append (tree : Tree) (place : Place) (entry : Entry) (first second : List OsString) :
    tree.follow place entry (first ++ second) =
      (tree.follow place entry first).bind fun reached =>
        tree.follow (first.foldl Place.step place) reached second := by
  induction first generalizing place entry with
  | nil => rw [List.nil_append, follow]; rfl
  | cons part rest ih =>
      cases entry with
      | file content => rfl
      | directory =>
          rw [List.cons_append, follow, follow]
          split_ifs with long
          · rfl
          · cases found : tree.find? (place.step part) with
            | none => rfl
            | some entry => exact ih (place.step part) entry

theorem follow_name (tree : Tree) (place : Place) {name : OsString} (isName : Path.IsName name) :
    tree.follow place .directory [name] =
      match tree.find? (place.child name) with
      | none => .error .notFound
      | some entry => .ok entry := by
  have step : place.step name = place.child name := by
    rw [Place.step, if_neg (not_or.2 ⟨isName.notEmpty, isName.notHere⟩), if_neg isName.notUp]
  rw [follow, if_neg (Nat.not_lt.2 isName.short), step]
  cases tree.find? (place.child name) <;> rfl

theorem follow_empty_part {tree : Tree} {place : Place} {entry : Entry}
    (reached : tree.follow place entry [""] = .ok .directory) : entry = .directory := by
  cases entry with
  | file content => exact nomatch reached
  | directory => rfl

theorem follow_join {tree : Tree} {directory name : OsString} (isName : Path.IsName name)
    (notEmpty : directory ≠ "")
    (reached : tree.follow (Place.start directory) .directory (Path.parts directory) =
      .ok .directory) :
    tree.follow (Place.start (Path.join directory name)) .directory
        (Path.parts (Path.join directory name)) =
      tree.follow (Place.ofPath directory) .directory [name] := by
  have start (rest : OsString) : Place.start (directory ++ rest) = Place.start directory := by
    rw [Place.start, Place.start, Path.isAbsolute_append notEmpty]
  rcases Path.join_cases notEmpty isName with joined | ⟨front, rfl, joined⟩
  · rw [joined, Path.parts_append_slash, isName.parts_eq, OsString.append_assoc, start,
      follow_append, reached]
    rfl
  · have parts : Path.parts (front ++ "/") = Path.parts front ++ [("" : OsString)] := by
      rw [← Path.parts_empty, ← Path.parts_append_slash, OsString.append_empty]
    rw [parts, follow_append] at reached
    cases followed : tree.follow (Place.start (front ++ "/")) .directory (Path.parts front) with
    | error failure =>
        rw [followed] at reached
        exact nomatch reached
    | ok entry =>
        rw [followed] at reached
        obtain rfl := follow_empty_part reached
        rw [joined, start, Path.parts_append_slash, isName.parts_eq, follow_append, followed,
          Place.ofPath, parts, List.foldl_append]
        rfl

theorem look_eq_ok_iff (tree : Tree) (path : OsString) (entry : Entry) :
    tree.look path = .ok entry ↔
      0 ∉ path.bytes ∧ path ≠ "" ∧ path.length ≤ longestPath ∧
        tree.follow (Place.start path) .directory (Path.parts path) = .ok entry := by
  rw [look]
  split_ifs with zero empty long
  · simp [List.contains_iff_mem.1 zero]
  · simp [OsString.isEmpty_iff.1 empty]
  · simp [longestPath, Nat.not_le.2 long]
  · have noZero : 0 ∉ path.bytes := fun member => zero (List.contains_iff_mem.2 member)
    have notEmpty : path ≠ "" := fun equal => empty (OsString.isEmpty_iff.2 equal)
    simp [longestPath, noZero, notEmpty, Nat.not_lt.1 long]

theorem look_of_long {tree : Tree} {path : OsString} (noZero : 0 ∉ path.bytes)
    (long : longestPath < path.length) : tree.look path = .error .nameTooLong := by
  have notEmpty : ¬ path.isEmpty := by
    rw [OsString.isEmpty_iff]
    rintro rfl
    exact absurd long (by decide)
  rw [look, if_neg (mt List.contains_iff_mem.1 noZero), if_neg notEmpty]
  exact if_pos long

theorem isDirectory_iff (tree : Tree) (path : OsString) :
    tree.isDirectory path ↔ tree.look path = .ok .directory := by
  rw [isDirectory]
  split <;> simp_all

theorem isFile_iff (tree : Tree) (path : OsString) :
    tree.isFile path ↔ ∃ content, tree.look path = .ok (.file content) := by
  rw [isFile]
  split <;> simp_all

theorem holdsFile_iff (tree : Tree) (place : Place) :
    tree.holdsFile place ↔ ∃ content, tree.find? place = some (.file content) := by
  rw [holdsFile, hasFile, find?]
  split <;> simp_all

/-- A name in a directory is a file exactly when there is a file at its place and the path to it is
not too long. -/
theorem isFile_join_iff {tree : Tree} {directory name : OsString} (isName : Path.IsName name)
    (isDirectory : tree.isDirectory directory) :
    tree.isFile (Path.join directory name) ↔
      (Path.join directory name).length ≤ longestPath ∧
        tree.holdsFile ((Place.ofPath directory).child name) := by
  obtain ⟨noZero, notEmpty, -, reached⟩ :=
    (look_eq_ok_iff _ _ _).1 ((isDirectory_iff tree directory).1 isDirectory)
  have notSlash : (0 : UInt8) ≠ Path.slash := by decide
  have joinedNoZero : 0 ∉ (Path.join directory name).bytes := by
    rcases Path.join_cases notEmpty isName with joined | ⟨front, rfl, joined⟩
    · simp [joined, noZero, isName.noZero, notSlash]
    · simp only [OsString.bytes_append, List.mem_append, not_or] at noZero
      simp [joined, noZero, isName.noZero, notSlash]
  have joinedNotEmpty : Path.join directory name ≠ "" := by
    rcases Path.join_cases notEmpty isName with joined | ⟨front, rfl, joined⟩
    · simp [joined, isName.notEmpty]
    · simp [joined, isName.notEmpty]
  simp only [isFile_iff, look_eq_ok_iff, holdsFile_iff, joinedNoZero, joinedNotEmpty,
    not_false_eq_true, ne_eq, true_and, exists_and_left, follow_join isName notEmpty reached,
    follow_name tree _ isName]
  refine and_congr_right fun _ => exists_congr fun content => ?_
  cases tree.find? ((Place.ofPath directory).child name) <;> simp

end Tree

end LintAdapter.Files
