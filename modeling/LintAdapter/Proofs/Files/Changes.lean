import LintAdapter.Proofs.Files.Lookup
import LintAdapter.Proofs.LastValue

namespace LintAdapter.Files

inductive Change where
  | write (place : Place) (content : ByteArray)
  | makeDirectory (place : Place)
  | remove (place : Place)

namespace Tree

def apply (tree : Tree) : Change → Tree
  | .write place content => tree.write place content
  | .makeDirectory place => tree.makeDirectory place
  | .remove place => tree.remove place

def after (working : List OsString) (changes : List Change) : Tree :=
  changes.foldl apply (empty working)

theorem working_fill (tree : Tree) (names : List OsString) :
    (tree.fill names).working = tree.working := by
  rw [fill]
  induction lineage names generalizing tree with
  | nil => rfl
  | cons above rest ih =>
      rw [List.foldl_cons, ih]
      split_ifs <;> rfl

theorem working_apply (tree : Tree) (change : Change) :
    (tree.apply change).working = tree.working := by
  cases change with
  | write place content =>
      rw [apply, write]
      split_ifs
      · exact working_fill tree _
      · rfl
  | makeDirectory place =>
      rw [apply, makeDirectory]
      split_ifs
      · rfl
      · exact working_fill tree _
  | remove place => rfl

theorem working_after (working : List OsString) (changes : List Change) :
    (after working changes).working = working := by
  induction changes using List.reverseRecOn with
  | nil => rfl
  | append_singleton rest change ih => rw [after, List.foldl_concat, working_apply, ← after, ih]

def namesAt (working : List OsString) (place : Place) : List OsString := (empty working).locate place

theorem locate_after (working : List OsString) (changes : List Change) (place : Place) :
    (after working changes).locate place = namesAt working place := by
  rw [namesAt, locate, locate, working_after]
  rfl

theorem at?_put (tree : Tree) (names : List OsString) (entry : Entry) (other : List OsString) :
    (tree.put names entry).at? other =
      if other.isPrefixOf tree.working then some .directory
      else if other = names then some entry else tree.at? other := by
  rw [at?, at?]
  change (if other.isPrefixOf tree.working then some Entry.directory
    else ((names, entry) :: tree.entries).lookup other) = _
  rw [lookup_cons_eq_ite]
  split_ifs <;> rfl

theorem hasFile_put_directory {tree : Tree} {names : List OsString} (free : tree.at? names = none)
    (other : List OsString) : (tree.put names .directory).hasFile other = tree.hasFile other := by
  rw [hasFile, hasFile, at?_put]
  split_ifs with above same
  · rw [at?, if_pos above]
  · rw [same, free]
  · rfl

theorem hasFile_fill (tree : Tree) (names other : List OsString) :
    (tree.fill names).hasFile other = tree.hasFile other := by
  rw [fill]
  induction lineage names generalizing tree with
  | nil => rfl
  | cons above rest ih =>
      rw [List.foldl_cons, ih]
      split_ifs with free
      · exact hasFile_put_directory (Option.isNone_iff_eq_none.1 free) other
      · rfl

theorem hasFile_makeDirectory (tree : Tree) (place : Place) (other : List OsString) :
    (tree.makeDirectory place).hasFile other = tree.hasFile other := by
  rw [makeDirectory]
  split_ifs
  · rfl
  · exact hasFile_fill tree _ other

theorem not_isPrefixOf_of_isWritable {tree : Tree} {names : List OsString}
    (writable : tree.isWritable names) : ¬ names.isPrefixOf tree.working := by
  intro above
  have isDirectory : tree.hasDirectory names := by rw [hasDirectory, at?, if_pos above]
  rw [isWritable, isDirectory, Bool.not_true, Bool.and_false] at writable
  cases writable

theorem hasFile_write (tree : Tree) (place : Place) (content : ByteArray)
    (other : List OsString) :
    (tree.write place content).hasFile other ↔
      tree.locate place = other ∧ tree.isWritable other ∨ tree.hasFile other := by
  rw [write]
  split_ifs with writable
  · rw [hasFile, at?_put, working_fill]
    split_ifs with above same
    · have notHere : tree.locate place ≠ other := by
        rintro rfl
        exact not_isPrefixOf_of_isWritable writable above
      rw [hasFile, at?, if_pos above]
      simp [notHere]
    · subst same
      simp [writable]
    · rw [← hasFile, hasFile_fill]
      simp [Ne.symm same]
  · constructor
    · exact .inr
    · rintro (⟨rfl, possible⟩ | there)
      · exact absurd possible writable
      · exact there

theorem hasFile_remove (tree : Tree) (place : Place) (other : List OsString) :
    (tree.remove place).hasFile other ↔
      tree.hasFile other ∧ ¬ (tree.locate place).isPrefixOf other := by
  rw [hasFile, hasFile, at?, at?, remove]
  dsimp only
  split_ifs with above
  · simp
  · rw [lookup_filter fun held : List OsString => !(tree.locate place).isPrefixOf held]
    cases (tree.locate place).isPrefixOf other <;> simp

/-- Whether some step wrote a file with these names, which was possible then, and no later one
removed it. -/
def Written (working : List OsString) (changes : List Change) (names : List OsString) : Prop :=
  ∃ before place content later, changes = before ++ .write place content :: later ∧
    namesAt working place = names ∧ (after working before).isWritable names ∧
    ∀ directory, .remove directory ∈ later → ¬ (namesAt working directory).isPrefixOf names

theorem written_concat (working : List OsString) (changes : List Change) (change : Change)
    (names : List OsString) :
    Written working (changes ++ [change]) names ↔
      (∃ place content, change = .write place content ∧ namesAt working place = names ∧
        (after working changes).isWritable names) ∨
      Written working changes names ∧
        ∀ directory, change = .remove directory →
          ¬ (namesAt working directory).isPrefixOf names := by
  constructor
  · rintro ⟨before, place, content, later, equal, there, writable, kept⟩
    rcases later.eq_nil_or_concat' with rfl | ⟨earlier, last, rfl⟩
    · obtain ⟨rfl, same⟩ := List.append_inj' equal rfl
      exact .inl ⟨place, content, List.singleton_inj.1 same, there, writable⟩
    · rw [← List.cons_append, ← List.append_assoc] at equal
      obtain ⟨rfl, same⟩ := List.append_inj' equal rfl
      obtain rfl := List.singleton_inj.1 same
      refine .inr ⟨⟨before, place, content, earlier, rfl, there, writable, ?_⟩, ?_⟩
      · exact fun directory member => kept directory (List.mem_append_left _ member)
      · rintro directory rfl
        exact kept directory List.mem_concat_self
  · rintro (⟨place, content, rfl, there, writable⟩ |
      ⟨⟨before, place, content, later, rfl, there, writable, kept⟩, last⟩)
    · exact ⟨changes, place, content, [], rfl, there, writable,
        fun _ member => absurd member List.not_mem_nil⟩
    · refine ⟨before, place, content, later ++ [change],
        by rw [List.append_assoc, List.cons_append], there, writable, ?_⟩
      intro directory member
      rcases List.mem_append.1 member with earlier | same
      · exact kept directory earlier
      · exact last directory (List.mem_singleton.1 same).symm

theorem not_hasFile_empty (working names : List OsString) :
    ¬ (empty working).hasFile names := by
  rw [hasFile, at?]
  split_ifs <;> simp [empty]

theorem hasFile_after_iff (working : List OsString) (changes : List Change)
    (names : List OsString) :
    (after working changes).hasFile names ↔ Written working changes names := by
  induction changes using List.reverseRecOn with
  | nil =>
      refine iff_of_false (not_hasFile_empty working names) ?_
      rintro ⟨before, place, content, later, equal, -⟩
      simp at equal
  | append_singleton rest change ih =>
      rw [after, List.foldl_concat, ← after, written_concat, ← ih]
      cases change with
      | write place content =>
          rw [apply, hasFile_write, locate_after]
          simp
      | makeDirectory place =>
          rw [apply, hasFile_makeDirectory]
          simp
      | remove place =>
          rw [apply, hasFile_remove, locate_after]
          simp

end Tree

end LintAdapter.Files
