import LintAdapter.Json.Decoder
import LintAdapter.Text.Units

namespace LintAdapter.Text

open Json (isHighSurrogate isLowSurrogate)

def utf16Char (c : Char) : List Nat :=
  if c.toNat < 0x10000 then [c.toNat]
  else [0xd800 + (c.toNat - 0x10000) / 0x400, 0xdc00 + (c.toNat - 0x10000) % 0x400]

def utf16 (text : List Char) : List Nat := text.flatMap utf16Char

def splice (units : List Nat) (start stop : Nat) (replacement : List Nat) : List Nat :=
  units.take start ++ replacement ++ units.drop stop

def SplitsPair (units : List Nat) (offset : Nat) : Prop :=
  ∃ high low, units[offset - 1]? = some high ∧ units[offset]? = some low ∧
    isHighSurrogate high ∧ isLowSurrogate low

/-- An offset between two characters of the text that the units spell, or at an end of it. -/
def IsBoundary (units : List Nat) (offset : Nat) : Prop :=
  offset ≤ units.length ∧ ¬ SplitsPair units offset

theorem toNat_range (c : Char) : c.toNat < 0xd800 ∨ (0xdfff < c.toNat ∧ c.toNat < 0x110000) :=
  c.valid

theorem length_utf16Char (c : Char) : (utf16Char c).length = unitCount c := by
  unfold utf16Char unitCount
  split <;> rfl

theorem unitCount_pos (c : Char) : 0 < unitCount c := by
  unfold unitCount
  split <;> omega

theorem utf16Char_cases (c : Char) :
    (∃ unit, utf16Char c = [unit] ∧ unitCount c = 1 ∧ ¬ isHighSurrogate unit) ∨
    (∃ high low, utf16Char c = [high, low] ∧ unitCount c = 2 ∧ isHighSurrogate high ∧
      isLowSurrogate low ∧ ¬ isHighSurrogate low) := by
  have range := toNat_range c
  unfold utf16Char unitCount isHighSurrogate isLowSurrogate
  split
  · left
    refine ⟨_, rfl, rfl, ?_⟩
    simp only [Bool.and_eq_true, decide_eq_true_eq]
    omega
  · right
    refine ⟨_, _, rfl, rfl, ?_⟩
    simp only [Bool.and_eq_true, decide_eq_true_eq]
    omega

theorem count_utf16Char (c : Char) : (utf16Char c).count 0x0a = if c = '\n' then 1 else 0 := by
  have range := toNat_range c
  have newline : c = '\n' ↔ c.toNat = 0x0a := Char.toNat_inj.symm
  unfold utf16Char
  split
  · simp only [List.count_singleton, newline, beq_iff_eq]
  · have high : 0xd800 + (c.toNat - 0x10000) / 0x400 ≠ 0x0a := by omega
    have low : 0xdc00 + (c.toNat - 0x10000) % 0x400 ≠ 0x0a := by omega
    rw [if_neg (mt newline.1 (by omega))]
    simp [high, low]

theorem utf16_cons (c : Char) (rest : List Char) :
    utf16 (c :: rest) = utf16Char c ++ utf16 rest := by
  simp [utf16]

theorem utf16_append (first second : List Char) :
    utf16 (first ++ second) = utf16 first ++ utf16 second := by
  simp [utf16]

theorem utf16_eq_append (text : List Char) (position : Nat) :
    utf16 text = utf16 (text.take position) ++ utf16 (text.drop position) := by
  rw [← utf16_append, List.take_append_drop]

theorem count_utf16 (text : List Char) : (utf16 text).count 0x0a = text.count '\n' := by
  induction text with
  | nil => rfl
  | cons c rest ih =>
      rw [utf16_cons, List.count_append, ih, count_utf16Char, List.count_cons]
      simp only [beq_iff_eq]
      omega

theorem utf16Char_append_inj {c d : Char} {first second : List Nat}
    (equal : utf16Char c ++ first = utf16Char d ++ second) : c = d ∧ first = second := by
  have rangeC := toNat_range c
  have rangeD := toNat_range d
  rw [← Char.toNat_inj]
  unfold utf16Char at equal
  split at equal <;> split at equal <;>
    simp only [List.cons_append, List.nil_append, List.cons.injEq] at equal
  · exact equal
  · omega
  · omega
  · obtain ⟨high, low, rest⟩ := equal
    exact ⟨by omega, rest⟩

theorem utf16_injective {first second : List Char} (equal : utf16 first = utf16 second) :
    first = second := by
  induction first generalizing second with
  | nil =>
      cases second with
      | nil => rfl
      | cons d rest =>
          have := congrArg List.length equal
          rw [utf16_cons, List.length_append, length_utf16Char] at this
          have := unitCount_pos d
          simp only [utf16, List.flatMap_nil, List.length_nil] at *
          omega
  | cons c rest ih =>
      cases second with
      | nil =>
          have := congrArg List.length equal
          rw [utf16_cons, List.length_append, length_utf16Char] at this
          have := unitCount_pos c
          simp only [utf16, List.flatMap_nil, List.length_nil] at *
          omega
      | cons d others =>
          rw [utf16_cons, utf16_cons] at equal
          obtain ⟨rfl, tails⟩ := utf16Char_append_inj equal
          rw [ih tails]

theorem unitPosition_eq_some_iff (text : List Char) (offset position : Nat) :
    unitPosition text offset = some position ↔
      position ≤ text.length ∧ (utf16 (text.take position)).length = offset := by
  fun_induction unitPosition text offset generalizing position with
  | case1 text =>
      constructor
      · intro found
        cases found
        simp [utf16]
      · rintro ⟨le, length⟩
        cases position with
        | zero => rfl
        | succ position =>
            cases text with
            | nil => simp at le
            | cons c rest =>
                rw [List.take_succ_cons, utf16_cons, List.length_append, length_utf16Char] at length
                have := unitCount_pos c
                omega
  | case2 offset =>
      simp only [List.take_nil, reduceCtorEq, false_iff]
      rintro ⟨-, length⟩
      cases length
  | case3 c rest offset fits ih =>
      rw [Option.map_eq_some_iff]
      constructor
      · rintro ⟨before, found, rfl⟩
        obtain ⟨le, length⟩ := (ih before).1 found
        rw [List.take_succ_cons, utf16_cons, List.length_append, length_utf16Char, List.length_cons]
        omega
      · rintro ⟨le, length⟩
        cases position with
        | zero => simp [utf16] at length
        | succ position =>
            rw [List.take_succ_cons, utf16_cons, List.length_append, length_utf16Char] at length
            rw [List.length_cons] at le
            exact ⟨position, (ih position).2 ⟨by omega, by omega⟩, rfl⟩
  | case4 c rest offset tooWide =>
      simp only [reduceCtorEq, false_iff]
      rintro ⟨le, length⟩
      cases position with
      | zero => simp [utf16] at length
      | succ position =>
          rw [List.take_succ_cons, utf16_cons, List.length_append, length_utf16Char] at length
          omega

theorem splitsPair_zero (units : List Nat) : ¬ SplitsPair units 0 := by
  rintro ⟨high, low, atHigh, atLow, isHigh, isLow⟩
  rw [Nat.zero_sub, atLow] at atHigh
  cases atHigh
  simp only [isHighSurrogate, isLowSurrogate, Bool.and_eq_true, decide_eq_true_eq] at isHigh isLow
  omega

theorem splitsPair_cons {unit : Nat} (notHigh : ¬ isHighSurrogate unit) (units : List Nat)
    (offset : Nat) : SplitsPair (unit :: units) (offset + 1) ↔ SplitsPair units offset := by
  cases offset with
  | zero =>
      refine iff_of_false ?_ (splitsPair_zero units)
      rintro ⟨high, low, atHigh, -, isHigh, -⟩
      cases atHigh
      exact notHigh isHigh
  | succ offset => simp [SplitsPair]

theorem splitsPair_cons_cons {low : Nat} (high : Nat) (notHigh : ¬ isHighSurrogate low)
    (units : List Nat) (offset : Nat) :
    SplitsPair (high :: low :: units) (offset + 2) ↔ SplitsPair units offset := by
  refine Iff.trans ?_ (splitsPair_cons notHigh units offset)
  simp [SplitsPair]

theorem unitPosition_isSome_iff (text : List Char) (offset : Nat) :
    (unitPosition text offset).isSome ↔ IsBoundary (utf16 text) offset := by
  fun_induction unitPosition text offset with
  | case1 text => simpa [IsBoundary] using splitsPair_zero _
  | case2 offset => simp [IsBoundary, utf16]
  | case3 c rest offset fits ih =>
      rw [Option.isSome_map, ih, utf16_cons, IsBoundary, IsBoundary, List.length_append]
      rcases utf16Char_cases c with ⟨unit, units, one, notHigh⟩ |
        ⟨high, low, units, two, -, -, notHigh⟩
      · rw [units, one, List.cons_append, List.nil_append, Nat.add_sub_cancel,
          splitsPair_cons notHigh, List.length_singleton]
        exact and_congr_left fun _ => by omega
      · obtain ⟨before, rfl⟩ : ∃ before, offset = before + 1 := ⟨offset - 1, by omega⟩
        rw [units, two, List.cons_append, List.cons_append, List.nil_append,
          splitsPair_cons_cons high notHigh, List.length_cons, List.length_singleton]
        exact and_congr_left fun _ => by omega
  | case4 c rest offset tooWide =>
      -- Only the middle of a pair is too near for its first character.
      rcases utf16Char_cases c with ⟨unit, units, one, -⟩ |
        ⟨high, low, units, two, isHigh, isLow, -⟩
      · omega
      · obtain rfl : offset = 0 := by omega
        refine iff_of_false (by simp) fun boundary => boundary.2 ?_
        rw [utf16_cons, units]
        exact ⟨high, low, rfl, rfl, isHigh, isLow⟩

theorem take_utf16 {text : List Char} {offset position : Nat}
    (found : unitPosition text offset = some position) :
    (utf16 text).take offset = utf16 (text.take position) := by
  obtain ⟨-, length⟩ := (unitPosition_eq_some_iff text offset position).1 found
  rw [utf16_eq_append text position, List.take_left' length]

theorem drop_utf16 {text : List Char} {offset position : Nat}
    (found : unitPosition text offset = some position) :
    (utf16 text).drop offset = utf16 (text.drop position) := by
  obtain ⟨-, length⟩ := (unitPosition_eq_some_iff text offset position).1 found
  rw [utf16_eq_append text position, List.drop_left' length]

theorem splice_utf16 {text replacement : List Char} {start stop first last : Nat}
    (atStart : unitPosition text start = some first) (atStop : unitPosition text stop = some last) :
    splice (utf16 text) start stop (utf16 replacement) =
      utf16 (text.take first ++ replacement ++ text.drop last) := by
  rw [splice, take_utf16 atStart, drop_utf16 atStop, utf16_append, utf16_append]

theorem length_utf16_take_mono (text : List Char) {first second : Nat} (le : first ≤ second) :
    (utf16 (text.take first)).length ≤ (utf16 (text.take second)).length := by
  obtain ⟨more, rfl⟩ := Nat.exists_eq_add_of_le le
  rw [List.take_add, utf16_append, List.length_append]
  omega

theorem unitPosition_mono {text : List Char} {start stop first last : Nat} (le : start ≤ stop)
    (atStart : unitPosition text start = some first) (atStop : unitPosition text stop = some last) :
    first ≤ last := by
  obtain ⟨firstLe, atFirst⟩ := (unitPosition_eq_some_iff text start first).1 atStart
  obtain ⟨lastLe, atLast⟩ := (unitPosition_eq_some_iff text stop last).1 atStop
  rcases Nat.le_total first last with ordered | reversed
  · exact ordered
  · -- An earlier position takes no more units, so both offsets are the same.
    have fewer := length_utf16_take_mono text reversed
    obtain rfl : start = stop := by omega
    rw [atStart] at atStop
    cases atStop
    exact Nat.le_refl first

end LintAdapter.Text
