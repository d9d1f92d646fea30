import LintAdapter.Proofs.Files.Lookup

namespace LintAdapter.Files

/-- The working directory as a path of any length. -/
def hereRepeated : Nat → String
  | 0 => "."
  | count + 1 => "." ++ "/" ++ hereRepeated count

theorem ofText_hereRepeated_succ (count : Nat) :
    OsString.ofText (hereRepeated (count + 1)) = "." ++ "/" ++ (hereRepeated count : OsString) := by
  rw [hereRepeated, OsString.ofText_append, OsString.ofText_append]

theorem hereRepeated_ne_empty (count : Nat) : (hereRepeated count : OsString) ≠ "" := by
  cases count with
  | zero => decide
  | succ count =>
      rw [ofText_hereRepeated_succ, OsString.append_assoc, ne_eq, OsString.append_eq_empty_iff]
      exact fun empty => absurd empty.1 (by decide)

theorem length_hereRepeated (count : Nat) :
    (hereRepeated count : OsString).length = 2 * count + 1 := by
  induction count with
  | zero => rfl
  | succ count ih =>
      rw [ofText_hereRepeated_succ, OsString.length_append, OsString.length_append, ih]
      change 1 + 1 + (2 * count + 1) = 2 * (count + 1) + 1
      omega

theorem zero_not_mem_hereRepeated (count : Nat) : 0 ∉ (hereRepeated count : OsString).bytes := by
  induction count with
  | zero => decide
  | succ count ih =>
      rw [ofText_hereRepeated_succ, OsString.bytes_append, List.mem_append, not_or]
      exact ⟨by decide, ih⟩

theorem parts_hereRepeated (count : Nat) :
    Path.parts (hereRepeated count) = List.replicate (count + 1) (OsString.ofText ".") := by
  induction count with
  | zero => rfl
  | succ count ih =>
      rw [ofText_hereRepeated_succ, Path.parts_append_slash, ih]
      rfl

theorem start_hereRepeated (count : Nat) : Place.start (hereRepeated count) = .here := by
  cases count with
  | zero => rfl
  | succ count =>
      rw [ofText_hereRepeated_succ, Place.start, OsString.append_assoc,
        Path.isAbsolute_append (by decide)]
      rfl

theorem ofPath_hereRepeated (count : Nat) : Place.ofPath (hereRepeated count) = .here := by
  rw [Place.ofPath, start_hereRepeated, parts_hereRepeated]
  induction count + 1 with
  | zero => rfl
  | succ parts ih => exact ih

theorem Tree.follow_hereRepeated (tree : Tree) (count : Nat) :
    tree.follow (Place.start (hereRepeated count)) .directory (Path.parts (hereRepeated count)) =
      .ok .directory := by
  rw [start_hereRepeated, parts_hereRepeated]
  induction count + 1 with
  | zero => rfl
  | succ parts ih =>
      have step : Place.here.step "." = .here := if_pos (.inr rfl)
      rw [List.replicate_succ, follow, if_neg (by decide), step, find?_of_names_eq_nil tree rfl]
      exact ih

theorem Tree.isDirectory_hereRepeated (tree : Tree) {count : Nat} (short : count ≤ 2047) :
    tree.isDirectory (hereRepeated count) := by
  have bounded : (hereRepeated count : OsString).length ≤ 4095 := by
    rw [length_hereRepeated]
    omega
  rw [isDirectory_iff, look_eq_ok_iff]
  exact ⟨zero_not_mem_hereRepeated count, hereRepeated_ne_empty count, bounded,
    tree.follow_hereRepeated count⟩

theorem Path.join_hereRepeated (count : Nat) {name : OsString} (isName : IsName name) :
    join (hereRepeated count) name = (hereRepeated count : OsString) ++ "/" ++ name := by
  rcases join_cases (hereRepeated_ne_empty count) isName with joined | ⟨front, closed, -⟩
  · exact joined
  · -- A path with a slash at its end has an empty last part.
    have parts := parts_hereRepeated count
    rw [closed, ← OsString.append_empty (front ++ "/"), parts_append_slash] at parts
    have last : OsString.ofText "" ∈ List.replicate (count + 1) (OsString.ofText ".") := by
      rw [← parts]
      exact List.mem_append_right _ List.mem_cons_self
    exact absurd (List.eq_of_mem_replicate last) (by decide)

theorem Path.zero_not_mem_join_hereRepeated (count : Nat) {name : OsString}
    (isName : IsName name) : 0 ∉ (join (hereRepeated count) name).bytes := by
  have notSlash : (0 : UInt8) ≠ slash := by decide
  simp [join_hereRepeated count isName, zero_not_mem_hereRepeated, isName.noZero, notSlash]

theorem Path.join_hereRepeated_ne_empty (count : Nat) {name : OsString} (isName : IsName name) :
    join (hereRepeated count) name ≠ "" := by
  rw [join_hereRepeated count isName, ne_eq, OsString.append_eq_empty_iff]
  exact fun empty => isName.notEmpty empty.2

theorem Path.length_join_hereRepeated (count : Nat) {name : OsString} (isName : IsName name) :
    (join (hereRepeated count) name).length = 2 * count + 2 + name.length := by
  rw [join_hereRepeated count isName, OsString.length_append, OsString.length_append,
    length_hereRepeated]
  rfl

end LintAdapter.Files
