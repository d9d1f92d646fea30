import LintAdapter.Proofs.Text.ByteOffset

namespace LintAdapter.Text

def unitLength (text : String) : Nat := (utf16 text.toList).length

/-- An offset in bytes is a boundary, and what stands before it has `offset` UTF-16 units. -/
structure Measures (source : String) (byte offset : Nat) : Prop where
  boundary : IsByteBoundary source byte
  units : ∃ before, cut source 0 byte = .ok before ∧ unitLength before = offset

variable {source : String}

theorem byteOffset_lt {text : List Char} {first second : Nat} (less : first < second)
    (inside : second ≤ text.length) : byteOffset text first < byteOffset text second := by
  obtain ⟨more, rfl⟩ := Nat.exists_eq_add_of_lt less
  have next : first < text.length := by omega
  rw [Nat.add_assoc, byteOffset_add, List.drop_eq_getElem_cons next, byteOffset_succ]
  have := Char.utf8Size_pos text[first]
  omega

theorem exists_position_of_boundary {byte : Nat} (boundary : IsByteBoundary source byte) :
    ∃ position ≤ source.toList.length, byteOffset source.toList position = byte := by
  obtain ⟨position, rfl⟩ := (isByteBoundary_iff source byte).1 boundary
  refine ⟨min position source.toList.length, Nat.min_le_right _ _, ?_⟩
  rw [byteOffset, byteOffset, ← List.take_eq_take_min]

theorem measures_iff (byte offset : Nat) :
    Measures source byte offset ↔ ∃ position,
      unitPosition source.toList offset = some position ∧
        byteOffset source.toList position = byte := by
  constructor
  · rintro ⟨boundary, before, isCut, units⟩
    obtain ⟨position, inside, rfl⟩ := exists_position_of_boundary boundary
    rw [cut_take] at isCut
    cases isCut
    rw [unitLength, String.toList_ofList] at units
    exact ⟨position, (unitPosition_eq_some_iff _ _ _).2 ⟨inside, units⟩, rfl⟩
  · rintro ⟨position, found, rfl⟩
    obtain ⟨-, units⟩ := (unitPosition_eq_some_iff _ _ _).1 found
    refine ⟨isByteBoundary_byteOffset source position, _, cut_take source position, ?_⟩
    rw [unitLength, String.toList_ofList, units]

theorem unitByte_eq_some_iff (offset byte : Nat) :
    unitByte source offset = some byte ↔ Measures source byte offset := by
  rw [unitByte_eq, Option.map_eq_some_iff, measures_iff]

theorem unitByte_eq_none_iff (offset : Nat) :
    unitByte source offset = none ↔
      unitLength source < offset ∨ SplitsPair (utf16 source.toList) offset := by
  rw [unitByte_eq, Option.map_eq_none_iff, ← Option.not_isSome_iff_eq_none,
    unitPosition_isSome_iff, IsBoundary, not_and_or, Nat.not_le, not_not]
  rfl

theorem unitByte_lt {first second firstByte secondByte : Nat} (less : first < second)
    (atFirst : unitByte source first = some firstByte)
    (atSecond : unitByte source second = some secondByte) : firstByte < secondByte := by
  rw [unitByte_eq, Option.map_eq_some_iff] at atFirst atSecond
  obtain ⟨before, foundFirst, rfl⟩ := atFirst
  obtain ⟨after, foundSecond, rfl⟩ := atSecond
  have ordered := unitPosition_mono less.le foundFirst foundSecond
  obtain ⟨-, unitsFirst⟩ := (unitPosition_eq_some_iff _ _ _).1 foundFirst
  obtain ⟨inside, unitsSecond⟩ := (unitPosition_eq_some_iff _ _ _).1 foundSecond
  -- One position has one number of units before it, so the two are not the same.
  have different : before ≠ after := by
    rintro rfl
    omega
  exact byteOffset_lt (Nat.lt_of_le_of_ne ordered different) inside

theorem unitByte_lt_iff {first second firstByte secondByte : Nat}
    (atFirst : unitByte source first = some firstByte)
    (atSecond : unitByte source second = some secondByte) :
    first < second ↔ firstByte < secondByte := by
  refine ⟨fun less => unitByte_lt less atFirst atSecond, fun less => ?_⟩
  rcases Nat.lt_trichotomy first second with before | rfl | after
  · exact before
  · rw [atFirst] at atSecond
    cases atSecond
    exact absurd less (Nat.lt_irrefl _)
  · exact absurd less (Nat.lt_asymm (unitByte_lt after atSecond atFirst))

theorem measures_start (source : String) : Measures source 0 0 :=
  (measures_iff 0 0).2 ⟨0, by rw [unitPosition], rfl⟩

theorem measures_end (source : String) :
    Measures source source.utf8ByteSize (unitLength source) := by
  refine (measures_iff _ _).2 ⟨source.toList.length, ?_, ?_⟩
  · rw [unitPosition_eq_some_iff, List.take_length]
    exact ⟨Nat.le_refl _, rfl⟩
  · rw [byteOffset_length, byteCount_toList]

theorem Measures.unique {byte other offset : Nat} (measures : Measures source byte offset)
    (same : Measures source other offset) : byte = other := by
  rw [← unitByte_eq_some_iff] at measures same
  exact Option.some.inj (measures.symm.trans same)

/-- The search for an offset in UTF-16 units is the inverse of measuring what stands before a
boundary, the two ends included. -/
theorem unitByte_inverts_measuring (source : String) :
    (∀ offset byte, unitByte source offset = some byte ↔ Measures source byte offset) ∧
    (Measures source 0 0 ∧ Measures source source.utf8ByteSize (unitLength source)) ∧
    (∀ offset byte other, Measures source byte offset → Measures source other offset →
      byte = other) ∧
    (∀ offset, unitByte source offset = none ↔
      unitLength source < offset ∨ SplitsPair (utf16 source.toList) offset) ∧
    (∀ first second firstByte secondByte, unitByte source first = some firstByte →
      unitByte source second = some secondByte → (first < second ↔ firstByte < secondByte)) ∧
    ∀ offset, unitByte source offset =
      (unitPosition source.toList offset).map (byteOffset source.toList) := by
  refine ⟨unitByte_eq_some_iff, ⟨measures_start source, measures_end source⟩, ?unique,
    unitByte_eq_none_iff, ?increases, unitByte_eq source⟩
  case unique => exact fun _ _ _ measures same => measures.unique same
  case increases => exact fun _ _ _ _ atFirst atSecond => unitByte_lt_iff atFirst atSecond

theorem unitByte_around_pair :
    unitByte "aé😀b" 2 = some 3 ∧ unitByte "aé😀b" 4 = some 7 ∧ Measures "aé😀b" 7 4 ∧
    (∀ other, Measures "aé😀b" other 4 → 7 = other) ∧ unitByte "aé😀b" 3 = none ∧
    (2 < 4 ↔ 3 < 7) := by
  obtain ⟨finds, -, unique, misses, increases, -⟩ := unitByte_inverts_measuring "aé😀b"
  have before : unitByte "aé😀b" 2 = some 3 := by decide
  have behind : unitByte "aé😀b" 4 = some 7 := by decide
  have measures : Measures "aé😀b" 7 4 := (finds 4 7).1 behind
  have splits : SplitsPair (utf16 "aé😀b".toList) 3 :=
    ⟨0xd83d, 0xde00, by decide, by decide, by decide, by decide⟩
  exact ⟨before, behind, measures, fun other same => unique 4 7 other measures same,
    (misses 3).2 (.inr splits), increases 2 4 3 7 before behind⟩

end LintAdapter.Text
