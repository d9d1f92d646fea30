import LintAdapter.Proofs.Files.Lookup
import Mathlib.Data.List.DropRight
import Mathlib.Data.List.Induction

namespace LintAdapter.Files

theorem not_mem_of_mem_splitOn {separator : UInt8} (text : List UInt8) :
    ∀ part ∈ text.splitOn separator, separator ∉ part := by
  induction length : text.length using Nat.strongRecOn generalizing text with
  | ind n ih =>
      by_cases inside : separator ∈ text
      · obtain ⟨first, rest, rfl, before⟩ := List.eq_append_cons_of_mem inside
        have shorter : rest.length < n := by
          rw [← length, List.length_append, List.length_cons]
          omega
        rw [List.splitOn_append_cons_self, List.splitOn_eq_singleton before,
          List.singleton_append, List.forall_mem_cons]
        exact ⟨before, ih _ shorter rest rfl⟩
      · rw [List.splitOn_eq_singleton inside]
        exact List.forall_mem_singleton.2 inside

namespace Path

theorem slash_not_mem_of_mem_parts (path : OsString) {part : OsString}
    (member : part ∈ parts path) : slash ∉ part.bytes := by
  obtain ⟨bytes, split, rfl⟩ := List.mem_map.1 member
  exact not_mem_of_mem_splitOn _ bytes split

theorem parts_ofParts {steps : List OsString} (noSlash : ∀ part ∈ steps, slash ∉ part.bytes)
    (nonempty : steps ≠ []) : parts (ofParts steps) = steps := by
  have bytes : ∀ part ∈ steps.map OsString.bytes, slash ∉ part := List.forall_mem_map.2 noSlash
  rw [parts, ofParts, List.splitOn_intercalate _ bytes (by simpa using nonempty), List.map_map]
  exact List.map_id' steps

theorem ofParts_parts (path : OsString) : ofParts (parts path) = path := by
  rw [ofParts, parts, List.map_map]
  refine OsString.ext ?_
  change [slash].intercalate ((path.bytes.splitOn slash).map id) = path.bytes
  rw [List.map_id]
  exact List.intercalate_splitOn slash

theorem parts_of_isAbsolute {path : OsString} (absolute : isAbsolute path) :
    ∃ rest, parts path = ("" : OsString) :: rest := by
  rw [isAbsolute, beq_iff_eq, List.head?_eq_some_iff] at absolute
  obtain ⟨rest, bytes⟩ := absolute
  refine ⟨(rest.splitOn slash).map OsString.mk, ?_⟩
  rw [parts, bytes, ← List.nil_append (slash :: rest), List.splitOn_append_cons_self,
    List.splitOn_nil]
  rfl

theorem isAbsolute_of_parts {path : OsString} {rest : List OsString}
    (first : parts path = ("" : OsString) :: rest) (more : rest ≠ []) : isAbsolute path := by
  obtain ⟨next, others, rfl⟩ := List.exists_cons_of_ne_nil more
  rw [isAbsolute, ← ofParts_parts path, first, ofParts, List.map_cons, List.map_cons,
    List.intercalate_cons_cons]
  rfl

theorem isStep_false_iff (part : OsString) : isStep false part ↔ part ≠ "" ∧ part ≠ "." := by
  simp [isStep]

theorem parent?_of_absolute {path name : OsString} {middle : List OsString}
    (cut : parts path = ("" : OsString) :: (middle ++ [name])) (moves : isStep false name) :
    parent? path = some (("/" : OsString) ++ ofParts (middle.rdropWhile (!isStep false ·))) := by
  have kept : (middle ++ [name]).rdropWhile (!isStep false ·) = middle ++ [name] :=
    List.rdropWhile_concat_neg _ _ _ (by simp [moves])
  rw [List.rdropWhile] at kept
  rw [parent?, cut, OsString.ofText_empty]
  simp only [kept]
  split
  · simp_all
  · rw [List.dropLast_concat]
    rfl

theorem trimmed_cons {first : OsString} (notEmpty : first ≠ "") (rest : List OsString) :
    trimmed (first :: rest) = first :: rest.rdropWhile (!isStep false ·) := by
  have moves : isStep true first := by simp [isStep, notEmpty]
  rw [trimmed, ← List.rdropWhile]
  split
  · simp_all
  · rfl

theorem trimmed_concat {front : List OsString} {name : OsString}
    (notEmpty : (front ++ [name]).head? ≠ some (.ofText "")) (moves : isStep false name) :
    trimmed (front ++ [name]) = front ++ [name] := by
  cases front with
  | nil => exact trimmed_cons (fun empty => notEmpty (congrArg some empty)) []
  | cons first rest =>
      rw [List.cons_append, trimmed_cons (fun empty => notEmpty (congrArg some empty)),
        List.rdropWhile_concat_neg _ _ _ (by simp [moves])]

theorem parent?_of_relative {path name : OsString} {front : List OsString}
    (cut : parts path = front ++ [name]) (notEmpty : (front ++ [name]).head? ≠ some (.ofText ""))
    (moves : isStep false name) :
    parent? path = some (ofParts (trimmed front)) := by
  rw [parent?, cut]
  rw [OsString.ofText_empty] at notEmpty
  split
  · simp_all
  · rw [trimmed_concat notEmpty moves]
    split
    · simp_all
    · rw [List.dropLast_concat]

end Path

namespace Place

open LintAdapter.Files.Path (parts isStep isAbsolute join)

theorem step_silent (place : Place) {part : OsString} (silent : part = "" ∨ part = ".") :
    place.step part = place :=
  if_pos silent

theorem step_up (place : Place) : place.step ".." = place.parent := by
  rw [step, if_neg (by decide), if_pos rfl]

theorem foldl_step_rdropWhile (place : Place) (steps : List OsString) :
    (steps.rdropWhile (!isStep false ·)).foldl step place = steps.foldl step place := by
  induction steps using List.reverseRecOn with
  | nil => rfl
  | append_singleton steps part ih =>
      by_cases moves : isStep false part
      · rw [List.rdropWhile_concat_neg _ _ _ (by simp [moves])]
      · have silent : part = "" ∨ part = "." := by
          rw [Path.isStep_false_iff] at moves
          tauto
        rw [List.rdropWhile_concat_pos _ _ _ (by simp [moves]), ih, List.foldl_concat,
          step_silent _ silent]

theorem foldl_step_parts_intercalate (place : Place) {steps : List OsString}
    (noSlash : ∀ part ∈ steps, Path.slash ∉ part.bytes) :
    (parts (Path.ofParts steps)).foldl step place = steps.foldl step place := by
  cases steps with
  | nil => rfl
  | cons first rest => rw [Path.parts_ofParts noSlash (List.cons_ne_nil _ _)]

theorem start_append {directory : OsString} (notEmpty : directory ≠ "") (rest : OsString) :
    start (directory ++ rest) = start directory := by
  rw [start, start, Path.isAbsolute_append notEmpty]

theorem ofPath_join (directory path : OsString) (relative : isAbsolute path = false) :
    ofPath (join directory path) = (parts path).foldl step (ofPath directory) := by
  rw [join, relative, Bool.false_or]
  split_ifs with empty closed
  · have here : start path = Place.here := by simp [start, relative]
    rw [OsString.isEmpty_iff.1 empty, ofPath, here]
    rfl
  · have notEmpty : directory ≠ "" := mt OsString.isEmpty_iff.2 empty
    obtain ⟨front, cut⟩ := Path.eq_append_slash closed
    have ends : parts directory = parts front ++ [("" : OsString)] := by
      rw [cut, ← Path.parts_empty, ← Path.parts_append_slash, OsString.append_empty]
    have joined : parts (directory ++ path) = parts front ++ parts path := by
      rw [cut, Path.parts_append_slash]
    rw [ofPath, ofPath, start_append notEmpty, joined, ends, List.foldl_append, List.foldl_concat,
      step_silent _ (.inl rfl)]
  · have notEmpty : directory ≠ "" := mt OsString.isEmpty_iff.2 empty
    rw [ofPath, ofPath, Path.parts_append_slash, OsString.append_assoc, start_append notEmpty,
      List.foldl_append]

theorem parent_child (place : Place) (name : OsString) : (place.child name).parent = place := by
  obtain ⟨anchor, names⟩ := place
  rw [parent]
  split
  · simp_all [child]
  · simp_all [child]
  · simp_all [child]

end Place

namespace Tree

open LintAdapter.Files.Path (parts)

def OpenAt (tree : Tree) (place : Place) : Prop :=
  ∀ count, tree.find? ⟨place.anchor, place.names.take count⟩ = some .directory

variable {tree : Tree} {place : Place}

theorem openAt_of_names_eq_nil (top : place.names = []) : tree.OpenAt place := by
  intro count
  rw [top, List.take_nil]
  exact tree.find?_of_names_eq_nil rfl

theorem OpenAt.find? (opened : tree.OpenAt place) : tree.find? place = some .directory := by
  have whole := opened place.names.length
  rwa [List.take_length] at whole

theorem OpenAt.parent (opened : tree.OpenAt place) : tree.OpenAt place.parent := by
  rw [Place.parent]
  split
  · exact opened
  · exact openAt_of_names_eq_nil rfl
  · intro count
    rw [List.dropLast_eq_take, List.take_take]
    exact opened _

theorem OpenAt.step (opened : tree.OpenAt place) {part : OsString}
    (found : tree.find? (place.step part) = some .directory) : tree.OpenAt (place.step part) := by
  rw [Place.step] at found ⊢
  split_ifs at found ⊢ with silent up
  · exact opened
  · exact opened.parent
  · intro count
    rcases Nat.lt_or_ge place.names.length count with whole | within
    · have all : (place.names ++ [part]).take count = place.names ++ [part] :=
        List.take_of_length_le (by rw [List.length_append]; exact whole)
      rw [Place.child, all]
      exact found
    · rw [Place.child, List.take_append_of_le_length within]
      exact opened count

theorem OpenAt.follow (opened : tree.OpenAt place) {steps : List OsString}
    (reached : tree.follow place .directory steps = .ok .directory) :
    tree.OpenAt (steps.foldl Place.step place) := by
  induction steps generalizing place with
  | nil => exact opened
  | cons part rest ih =>
      rw [Tree.follow] at reached
      split_ifs at reached with long
      cases found : tree.find? (place.step part) with
      | none =>
          rw [found] at reached
          cases reached
      | some entry =>
          rw [found] at reached
          cases entry with
          | directory => exact ih (opened.step found) reached
          | file content => cases rest <;> cases reached

theorem find?_of_follow_singleton {part : OsString} {entry : Entry}
    (reached : tree.follow place .directory [part] = .ok entry) :
    tree.find? (place.step part) = some entry := by
  rw [Tree.follow] at reached
  split_ifs at reached with long
  cases found : tree.find? (place.step part) with
  | none =>
      rw [found] at reached
      cases reached
  | some there =>
      rw [found] at reached
      rw [Except.ok.inj reached]

theorem OpenAt.exists_name (opened : tree.OpenAt place) {steps : List OsString} {content : ByteArray}
    (reached : tree.follow place .directory steps = .ok (.file content)) :
    ∃ (front : List OsString) (name : OsString), steps = front ++ [name] ∧ name ≠ "" ∧
      name ≠ "." ∧ name ≠ ".." := by
  rcases List.eq_nil_or_concat' steps with rfl | ⟨front, name, rfl⟩
  · cases reached
  · rw [follow_append] at reached
    cases followed : tree.follow place .directory front with
    | error failure =>
        rw [followed] at reached
        cases reached
    | ok entry =>
        rw [followed] at reached
        cases entry with
        | file => cases reached
        | directory =>
            have above := opened.follow followed
            have found := find?_of_follow_singleton reached
            -- The parts that are no names lead to directories that were passed before.
            refine ⟨front, name, rfl, ?_, ?_, ?_⟩
            · rintro rfl
              rw [Place.step_silent _ (.inl rfl), above.find?] at found
              cases found
            · rintro rfl
              rw [Place.step_silent _ (.inr rfl), above.find?] at found
              cases found
            · rintro rfl
              rw [Place.step_up, above.parent.find?] at found
              cases found

end Tree

namespace Place

open LintAdapter.Files.Path (parts isStep isAbsolute trimmed)

variable {path name : OsString} {front : List OsString}

theorem ofPath_parent?_of_absolute (absolute : isAbsolute path)
    (cut : parts path = front ++ [name]) (moves : isStep false name) :
    ∃ directory, Path.parent? path = some directory ∧
      ofPath directory = front.foldl step (start path) := by
  have notEmpty : name ≠ "" := ((Path.isStep_false_iff name).1 moves).1
  obtain ⟨rest, first⟩ := Path.parts_of_isAbsolute absolute
  rw [cut] at first
  cases front with
  | nil => exact absurd (List.cons.inj first).1 notEmpty
  | cons part middle =>
      rw [List.cons_append] at first cut
      obtain ⟨rfl, -⟩ := List.cons.inj first
      have noSlash : ∀ part ∈ middle.rdropWhile (!isStep false ·), Path.slash ∉ part.bytes := by
        intro part member
        refine Path.slash_not_mem_of_mem_parts path ?_
        rw [cut]
        exact List.mem_cons_of_mem _
          (List.mem_append_left _ ((List.rdropWhile_prefix _ _).subset member))
      refine ⟨_, Path.parent?_of_absolute cut moves, ?_⟩
      have root : start path = start "/" := by rw [start, if_pos absolute]; rfl
      have slash : ("/" : OsString) = "" ++ ("/" : OsString) := rfl
      rw [ofPath, start_append (by decide), root, slash, Path.parts_append_slash, ← slash,
        List.foldl_append, foldl_step_parts_intercalate _ noSlash, foldl_step_rdropWhile]
      rfl

theorem ofPath_parent?_of_relative (relative : isAbsolute path = false)
    (cut : parts path = front ++ [name]) (moves : isStep false name) :
    ∃ directory, Path.parent? path = some directory ∧
      ofPath directory = front.foldl step (start path) := by
  have notEmpty : name ≠ "" := ((Path.isStep_false_iff name).1 moves).1
  have here : start path = Place.here := by rw [start, relative, if_neg (by decide)]
  cases front with
  | nil =>
      refine ⟨_, Path.parent?_of_relative cut ?_ moves, ?_⟩
      · exact fun empty => notEmpty (Option.some.inj empty)
      · rw [here]
        rfl
  | cons first middle =>
      -- A path whose first part is empty begins with a slash.
      have named : first ≠ "" := by
        rintro rfl
        have slash := Path.isAbsolute_of_parts cut (by simp)
        rw [relative] at slash
        cases slash
      have noSlash : ∀ part ∈ first :: middle.rdropWhile (!isStep false ·),
          Path.slash ∉ part.bytes := by
        intro part member
        refine Path.slash_not_mem_of_mem_parts path ?_
        rw [cut]
        refine List.mem_append_left _ (List.Sublist.subset ?_ member)
        exact (List.rdropWhile_prefix _ _).sublist.cons_cons first
      refine ⟨_, Path.parent?_of_relative cut (fun empty => named (Option.some.inj empty)) moves, ?_⟩
      rw [Path.trimmed_cons named]
      have relativeToo :
          isAbsolute (Path.ofParts (first :: middle.rdropWhile (!isStep false ·))) = false := by
        rw [Bool.eq_false_iff]
        intro absolute
        obtain ⟨rest, empty⟩ := Path.parts_of_isAbsolute absolute
        rw [Path.parts_ofParts noSlash (List.cons_ne_nil _ _)] at empty
        exact named (List.cons.inj empty).1
      rw [ofPath, foldl_step_parts_intercalate _ noSlash, here, start, relativeToo,
        if_neg (by decide), List.foldl_cons, List.foldl_cons, foldl_step_rdropWhile]

theorem ofPath_parent? (cut : parts path = front ++ [name]) (moves : isStep false name) :
    ∃ directory, Path.parent? path = some directory ∧
      ofPath directory = front.foldl step (start path) := by
  cases absolute : isAbsolute path with
  | true => exact ofPath_parent?_of_absolute absolute cut moves
  | false => exact ofPath_parent?_of_relative absolute cut moves

end Place

theorem Tree.exists_parent?_of_look {tree : Tree} {path : OsString} {content : ByteArray}
    (found : tree.look path = .ok (.file content)) :
    ∃ directory, Path.parent? path = some directory ∧
      Place.ofPath directory = (Place.ofPath path).parent := by
  obtain ⟨-, -, -, reached⟩ := (look_eq_ok_iff _ _ _).1 found
  have top : (Place.start path).names = [] := by
    rw [Place.start]
    split_ifs <;> rfl
  obtain ⟨front, name, cut, notEmpty, notHere, notUp⟩ :=
    (openAt_of_names_eq_nil top).exists_name reached
  obtain ⟨directory, parent, leads⟩ :=
    Place.ofPath_parent? cut ((Path.isStep_false_iff name).2 ⟨notEmpty, notHere⟩)
  have child (place : Place) : place.step name = place.child name := by
    simp [Place.step, notEmpty, notHere, notUp]
  refine ⟨directory, parent, ?_⟩
  rw [leads, Place.ofPath, cut, List.foldl_concat, child, Place.parent_child]

end LintAdapter.Files
