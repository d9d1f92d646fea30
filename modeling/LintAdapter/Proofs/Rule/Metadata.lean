import LintAdapter.Proofs.Json.Members
import LintAdapter.Rule.Metadata

namespace LintAdapter.Rule.Metadata

open Json (Value Fault)

def part? (name : String) (position : Nat) : Value → Option Value
  | .object members => lastValue? members name
  | .list items => items[position]?
  | _ => none

inductive IsFalse : Value → Prop
  | null : IsFalse .null
  | no : IsFalse (.bool false)
  | zero : IsFalse (.number (.integer 0))
  | realZero (x : Number.Binary64) (zero : x.isZero) : IsFalse (.number (.real x))
  | empty : IsFalse (.text "")

inductive Recommends : Value → Prop
  | yes : Recommends (.bool true)
  | tier : Recommends (.text "recommended")
  | tiers (members : List (String × Value)) (value : Value)
      (last : lastValue? members "recommended" = some value) (truthy : ¬ IsFalse value) :
      Recommends (.object members)

inductive Deprecates : Value → Prop
  | yes : Deprecates (.bool true)
  | info (members : List (String × Value)) : Deprecates (.object members)

def IsDeprecatedIn (given : Value) : Prop :=
  ∃ value, part? "deprecated" 0 given = some value ∧ Deprecates value

def IsRecommendedIn (given : Value) : Prop :=
  ∃ docs value, part? "docs" 2 given = some docs ∧ part? "recommended" 0 docs = some value ∧
    Recommends value

def defaultsIn (given : Value) : List Parameter :=
  match part? "schema" 1 given with
  | some schema => Schema.defaults schema.merged
  | none => []

theorem isTruthy_merged_iff (value : Value) : isTruthy value.merged ↔ ¬ IsFalse value := by
  constructor
  · rintro truthy (_ | _ | _ | ⟨x, zero⟩ | _)
    all_goals simp_all [Value.merged, isTruthy]
  · intro notFalse
    cases value with
    | null => exact absurd .null notFalse
    | bool value =>
        cases value with
        | false => exact absurd .no notFalse
        | true => rfl
    | number number =>
        cases number with
        | integer value =>
            refine bne_iff_ne.2 ?_
            rintro rfl
            exact notFalse .zero
        | real x =>
            cases zero : x.isZero with
            | true => exact absurd (.realZero x zero) notFalse
            | false => rw [Value.merged, isTruthy, zero]; rfl
    | text value =>
        refine bne_iff_ne.2 ?_
        rintro rfl
        exact notFalse .empty
    | list items => rfl
    | object members => rfl

theorem isRecommended_merged_iff (value : Value) :
    isRecommended value.merged ↔ Recommends value := by
  constructor
  · intro recommended
    cases value with
    | bool value =>
        cases value with
        | false => exact absurd recommended Bool.false_ne_true
        | true => exact .yes
    | text tier =>
        obtain rfl := beq_iff_eq.1 recommended
        exact .tier
    | object members =>
        rw [Value.merged, isRecommended, Value.lookup_merged_members] at recommended
        cases last : lastValue? members "recommended" with
        | none =>
            rw [last] at recommended
            exact absurd recommended Bool.false_ne_true
        | some value =>
            rw [last] at recommended
            exact .tiers members value last ((isTruthy_merged_iff value).1 recommended)
    | null => exact absurd recommended Bool.false_ne_true
    | number number => exact absurd recommended Bool.false_ne_true
    | list items => exact absurd recommended Bool.false_ne_true
  · rintro (_ | _ | ⟨members, value, last, truthy⟩)
    · rfl
    · rfl
    · rw [Value.merged, isRecommended, Value.lookup_merged_members, last]
      exact (isTruthy_merged_iff value).2 truthy

theorem isDeprecated_merged_iff (value : Value) :
    isDeprecated value.merged ↔ Deprecates value := by
  constructor
  · intro deprecated
    cases value with
    | bool value =>
        cases value with
        | false => exact absurd deprecated Bool.false_ne_true
        | true => exact .yes
    | object members => exact .info members
    | null => exact absurd deprecated Bool.false_ne_true
    | number number => exact absurd deprecated Bool.false_ne_true
    | text value => exact absurd deprecated Bool.false_ne_true
    | list items => exact absurd deprecated Bool.false_ne_true
  · rintro (_ | _) <;> rfl

theorem present_map_getD (test : Value → Bool) (null : test .null = false) (part : Option Value) :
    ((present part).map test).getD false = (part.map test).getD false := by
  rcases part with _ | (_ | _ | _ | _ | _ | _)
  case some.null => exact null.symm
  all_goals rfl

theorem getD_map_merged_iff {test : Value → Bool} {Holds : Value → Prop}
    (test_iff : ∀ value : Value, test value.merged ↔ Holds value) (part : Option Value) :
    ((part.map Value.merged).map test).getD false ↔ ∃ value, part = some value ∧ Holds value := by
  cases part with
  | none => simp
  | some value => simp [test_iff]

theorem recommendedOf_eq_ok {docs recommended : Option Value}
    (read : recommendedOf (present (docs.map Value.merged)) = .ok recommended) :
    recommended = present ((docs.bind (part? "recommended" 0)).map Value.merged) := by
  cases docs with
  | none =>
      cases read
      rfl
  | some docs =>
      cases docs with
      | null =>
          cases read
          rfl
      | object members =>
          rw [Option.map_some, Value.merged, present, recommendedOf, Value.lookup_merged_members]
            at read
          · cases read
            rfl
          · exact fun null => nomatch null
      | list items =>
          rw [Option.map_some, Value.merged, Value.mergedItems_eq_map] at read
          match items with
          | [] =>
              cases read
              rfl
          | [value] =>
              cases read
              rfl
          | _ :: _ :: _ => exact nomatch read
      | bool value => exact nomatch read
      | number number => exact nomatch read
      | text value => exact nomatch read

theorem raw_ofValue_merged {given : Value} {raw : Raw} (read : Raw.ofValue given.merged = .ok raw) :
    raw.deprecated = present ((part? "deprecated" 0 given).map Value.merged) ∧
    raw.schema = present ((part? "schema" 1 given).map Value.merged) ∧
    raw.recommended = present
      (((part? "docs" 2 given).bind (part? "recommended" 0)).map Value.merged) := by
  cases given with
  | object members =>
      simp only [Value.merged, Raw.ofValue, Value.lookup_merged_members] at read
      cases docs : recommendedOf (present ((lastValue? members "docs").map Value.merged)) with
      | error fault =>
          rw [docs] at read
          exact nomatch read
      | ok recommended =>
          rw [docs] at read
          cases read
          exact ⟨rfl, rfl, recommendedOf_eq_ok docs⟩
  | list items =>
      simp only [Value.merged, Raw.ofValue, Value.mergedItems_eq_map, List.getElem?_map] at read
      cases docs : recommendedOf (present (items[2]?.map Value.merged)) with
      | error fault =>
          rw [docs] at read
          exact nomatch read
      | ok recommended =>
          rw [docs] at read
          simp only [bind, Except.bind] at read
          split_ifs at read
          cases read
          exact ⟨rfl, rfl, recommendedOf_eq_ok docs⟩
  | null => exact nomatch read
  | bool value => exact nomatch read
  | number number => exact nomatch read
  | text value => exact nomatch read

theorem ofValue_eq_ok_iff (value : Value) (metadata : Metadata) :
    ofValue value = .ok metadata ↔ ∃ raw, Raw.ofValue value = .ok raw ∧ ofRaw raw = metadata := by
  rw [ofValue]
  cases Raw.ofValue value with
  | error fault => simp
  | ok raw => simp

theorem ofValue_merged {given : Value} {metadata : Metadata}
    (read : ofValue given.merged = .ok metadata) :
    (metadata.deprecated ↔ IsDeprecatedIn given) ∧
    (metadata.recommended ↔ IsRecommendedIn given) ∧ metadata.defaults = defaultsIn given := by
  obtain ⟨raw, rawRead, rfl⟩ := (ofValue_eq_ok_iff _ _).1 read
  obtain ⟨deprecated, schema, recommended⟩ := raw_ofValue_merged rawRead
  refine ⟨?_, ?_, ?_⟩
  · rw [ofRaw, deprecated, present_map_getD _ rfl, getD_map_merged_iff isDeprecated_merged_iff]
    rfl
  · rw [ofRaw, recommended, present_map_getD _ rfl, getD_map_merged_iff isRecommended_merged_iff,
      IsRecommendedIn]
    simp only [Option.bind_eq_some_iff]
    grind
  · rw [defaults, ofRaw, schema, defaultsIn]
    rcases part? "schema" 1 given with _ | (_ | _ | _ | _ | _ | _) <;> rfl

end LintAdapter.Rule.Metadata
