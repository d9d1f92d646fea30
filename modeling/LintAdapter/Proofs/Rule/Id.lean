import LintAdapter.Rule.Id
import Mathlib.Data.Set.Function
import Mathlib.Tactic.SplitIfs

namespace LintAdapter.Rule

def SameButSeparator (c d : Char) : Prop := c = d ∨ c = '/' ∧ d = '_' ∨ c = '_' ∧ d = '/'

structure DifferInSeparators (first second : String) : Prop where
  length : first.length = second.length
  agree : ∀ (position : Nat) (c d : Char), first.toList[position]? = some c →
    second.toList[position]? = some d → SameButSeparator c d

theorem linterChar_platformChar_eq_iff (c : Char) : linterChar (platformChar c) = c ↔ c ≠ '_' := by
  rw [platformChar, linterChar]
  split_ifs <;> simp_all

theorem platformChar_linterChar_eq_iff (c : Char) : platformChar (linterChar c) = c ↔ c ≠ '/' := by
  rw [linterChar, platformChar]
  split_ifs <;> simp_all

theorem map_map_eq_iff (there back : Char → Char) (id : String) :
    (id.map there).map back = id ↔ ∀ c ∈ id.toList, back (there c) = c := by
  rw [← String.toList_inj, String.toList_map, String.toList_map, List.map_map]
  induction id.toList with
  | nil => simp
  | cons c rest ih =>
      rw [List.map_cons, List.cons.injEq, ih, List.forall_mem_cons]
      rfl

theorem ofPlatformId_toPlatformId_eq_iff (id : String) :
    ofPlatformId (toPlatformId id) = id ↔ '_' ∉ id.toList := by
  rw [ofPlatformId, toPlatformId, map_map_eq_iff]
  simp only [linterChar_platformChar_eq_iff, List.forall_mem_ne']

theorem toPlatformId_ofPlatformId_eq_iff (id : String) :
    toPlatformId (ofPlatformId id) = id ↔ '/' ∉ id.toList := by
  rw [toPlatformId, ofPlatformId, map_map_eq_iff]
  simp only [platformChar_linterChar_eq_iff, List.forall_mem_ne']

theorem slash_not_mem_toPlatformId (id : String) : '/' ∉ (toPlatformId id).toList := by
  rw [toPlatformId, String.toList_map, List.mem_map]
  rintro ⟨c, -, slash⟩
  rw [platformChar] at slash
  split_ifs at slash with same
  · cases slash
  · exact same slash

theorem underscore_not_mem_ofPlatformId (id : String) : '_' ∉ (ofPlatformId id).toList := by
  rw [ofPlatformId, String.toList_map, List.mem_map]
  rintro ⟨c, -, underscore⟩
  rw [linterChar] at underscore
  split_ifs at underscore with same
  · cases underscore
  · exact same underscore

theorem ofPlatformId_eq_self {id : String} (noUnderscore : '_' ∉ id.toList) :
    ofPlatformId id = id := by
  have same : ∀ c ∈ id.toList, linterChar c = c := by
    intro c member
    apply if_neg
    rintro rfl
    exact noUnderscore member
  rw [ofPlatformId, ← String.toList_inj, String.toList_map, List.map_congr_left same, List.map_id']

theorem platformChar_eq_iff (c d : Char) :
    platformChar c = platformChar d ↔ SameButSeparator c d := by
  rw [platformChar, platformChar, SameButSeparator]
  split_ifs with left right right
  · simp [left, right]
  · simp [left, right, eq_comm]
  · simp [left, right]
  · simp [left, right]

theorem toPlatformId_eq_iff (first second : String) :
    toPlatformId first = toPlatformId second ↔ DifferInSeparators first second := by
  rw [toPlatformId, toPlatformId, ← String.toList_inj, String.toList_map, String.toList_map,
    List.ext_getElem_iff]
  simp only [List.length_map, String.length_toList, List.getElem_map, platformChar_eq_iff]
  constructor
  · rintro ⟨length, agree⟩
    refine ⟨length, fun position c d atFirst atSecond => ?_⟩
    obtain ⟨inFirst, rfl⟩ := List.getElem?_eq_some_iff.1 atFirst
    obtain ⟨inSecond, rfl⟩ := List.getElem?_eq_some_iff.1 atSecond
    exact agree position inFirst inSecond
  · rintro ⟨length, agree⟩
    refine ⟨length, fun position inFirst inSecond => ?_⟩
    exact agree position _ _ (List.getElem?_eq_getElem _) (List.getElem?_eq_getElem _)

theorem injOn_toPlatformId : Set.InjOn toPlatformId {id | '_' ∉ id.toList} := by
  have undone : Set.LeftInvOn ofPlatformId toPlatformId {id | '_' ∉ id.toList} :=
    fun id noUnderscore => (ofPlatformId_toPlatformId_eq_iff id).2 noUnderscore
  exact undone.injOn

theorem injOn_ofPlatformId : Set.InjOn ofPlatformId {id | '/' ∉ id.toList} := by
  have undone : Set.LeftInvOn toPlatformId ofPlatformId {id | '/' ∉ id.toList} :=
    fun id noSlash => (toPlatformId_ofPlatformId_eq_iff id).2 noSlash
  exact undone.injOn

end LintAdapter.Rule
