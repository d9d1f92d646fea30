import LintAdapter.Proofs.Rule.Schema

namespace LintAdapter.Rule.Schema

open Json (Value)

inductive Spells (item : Value) : Value → Prop
  | alone : Spells item item
  | listed (rest : List Value) : Spells item (.list (item :: rest))
  | inItems {members : List (String × Value)} (items : members.lookup "items" = some item) :
      Spells item (.object members)
  | listedInItems {members : List (String × Value)} {rest : List Value}
      (items : members.lookup "items" = some (.list (item :: rest))) :
      Spells item (.object members)

structure Carries (property : String × Value) (parameter : Parameter) : Prop where
  name : parameter.name = property.1
  value : property.2.get? "default" = some parameter.value

/-- The defaults of an option: one for each property that has a default, in their order, when there
are properties, and at most one positional parameter otherwise. -/
inductive DefaultsOf (item : List (String × Value)) : List Parameter → Prop
  | named {properties : List (String × Value)} {parameters : List Parameter}
      (declared : item.lookup "properties" = some (.object properties))
      (each : List.Forall₂ Carries
        (properties.filter fun property => (property.2.get? "default").isSome) parameters) :
      DefaultsOf item parameters
  | own {value : Value}
      (undeclared : ∀ properties, item.lookup "properties" ≠ some (.object properties))
      (own : item.lookup "default" = some value) : DefaultsOf item [.unnamed value]
  | choice {value : Value} {others : List Value}
      (undeclared : ∀ properties, item.lookup "properties" ≠ some (.object properties))
      (noOwn : item.lookup "default" = none)
      (choices : item.lookup "enum" = some (.list (value :: others))) :
      DefaultsOf item [.unnamed value]
  | absent (undeclared : ∀ properties, item.lookup "properties" ≠ some (.object properties))
      (noOwn : item.lookup "default" = none)
      (noChoice : ∀ value others, item.lookup "enum" ≠ some (.list (value :: others))) :
      DefaultsOf item []

theorem Spells.firstItem {item : List (String × Value)} {schema : Value}
    (spells : Spells (.object item) schema) (noItems : item.lookup "items" = none)
    (single : item.lookup "type" ≠ some (.text "array")) : FirstItem schema (.object item) := by
  cases spells with
  | alone => exact .itself noItems single
  | listed rest => exact .ofList _ rest
  | inItems items => exact .ofItem items
  | listedInItems items => exact .ofItems items

theorem FirstItem.defaults_eq {schema item : Value} (first : FirstItem schema item) :
    defaults schema = itemDefaults item := by
  rw [defaults, (firstItem?_eq_some_iff schema item).2 first]

theorem forall₂_carries_iff (properties : List (String × Value)) (parameters : List Parameter) :
    List.Forall₂ Carries
        (properties.filter fun property => (property.2.get? "default").isSome) parameters ↔
      parameters = propertyDefaults properties := by
  induction properties generalizing parameters with
  | nil => exact List.forall₂_nil_left_iff
  | cons property rest ih =>
      obtain ⟨name, held⟩ := property
      rw [propertyDefaults, List.filterMap_cons, List.filter_cons]
      dsimp only
      cases given : held.get? "default" with
      | none => exact ih parameters
      | some value =>
          change List.Forall₂ Carries ((name, held) :: _) parameters ↔
            parameters = ⟨name, value⟩ :: propertyDefaults rest
          rw [List.forall₂_cons_left_iff]
          constructor
          · rintro ⟨⟨_, _⟩, others, ⟨rfl, same⟩, carried, rfl⟩
            cases given.symm.trans same
            rw [(ih others).1 carried]
          · rintro rfl
            exact ⟨_, _, ⟨rfl, given⟩, (ih _).2 rfl, rfl⟩

theorem bind_members?_eq_none_iff (held : Option Value) :
    held.bind Value.members? = none ↔ ∀ members, held ≠ some (.object members) := by
  rcases held with _ | (_ | _ | _ | _ | _ | _) <;> simp [Value.members?]

theorem bind_head?_eq_some_iff (held : Option Value) (value : Value) :
    (held.bind Value.items?).bind List.head? = some value ↔
      ∃ others, held = some (.list (value :: others)) := by
  rcases held with _ | (_ | _ | _ | _ | (_ | ⟨first, rest⟩) | _) <;> simp [Value.items?]

theorem itemDefaults_of_undeclared {item : List (String × Value)}
    (undeclared : ∀ properties, item.lookup "properties" ≠ some (.object properties)) :
    itemDefaults (.object item) =
      (positionalDefault? (.object item)).toList.map Parameter.unnamed := by
  have none := (bind_members?_eq_none_iff _).2 undeclared
  rw [itemDefaults, Value.get?, none]

theorem positionalDefault?_of_noOwn {item : List (String × Value)}
    (noOwn : item.lookup "default" = none) :
    positionalDefault? (.object item) =
      ((item.lookup "enum").bind Value.items?).bind List.head? := by
  rw [positionalDefault?, Value.get?, noOwn]
  rfl

theorem defaultsOf_iff (item : List (String × Value)) (parameters : List Parameter) :
    DefaultsOf item parameters ↔ parameters = itemDefaults (.object item) := by
  constructor
  · rintro (⟨declared, each⟩ | ⟨undeclared, own⟩ | ⟨undeclared, noOwn, choices⟩ |
      ⟨undeclared, noOwn, noChoice⟩)
    · rw [(forall₂_carries_iff _ _).1 each, itemDefaults, Value.get?, declared]
      rfl
    · rw [itemDefaults_of_undeclared undeclared, positionalDefault?, Value.get?, own]
      rfl
    · rw [itemDefaults_of_undeclared undeclared, positionalDefault?_of_noOwn noOwn, choices]
      rfl
    · have none : ((item.lookup "enum").bind Value.items?).bind List.head? = none := by
        rw [Option.eq_none_iff_forall_ne_some]
        intro value found
        obtain ⟨others, choices⟩ := (bind_head?_eq_some_iff _ _).1 found
        exact noChoice value others choices
      rw [itemDefaults_of_undeclared undeclared, positionalDefault?_of_noOwn noOwn, none]
      rfl
  · rintro rfl
    by_cases declared : ∃ properties, item.lookup "properties" = some (.object properties)
    · obtain ⟨properties, declared⟩ := declared
      rw [itemDefaults, Value.get?, declared]
      exact .named declared ((forall₂_carries_iff _ _).2 rfl)
    · have undeclared := not_exists.1 declared
      rw [itemDefaults_of_undeclared undeclared]
      cases own : item.lookup "default" with
      | some value =>
          rw [positionalDefault?, Value.get?, own]
          exact .own undeclared own
      | none =>
          rw [positionalDefault?_of_noOwn own]
          cases found : ((item.lookup "enum").bind Value.items?).bind List.head? with
          | some value =>
              obtain ⟨others, choices⟩ := (bind_head?_eq_some_iff _ _).1 found
              exact .choice undeclared own choices
          | none =>
              refine .absent undeclared own fun value others choices => ?_
              rw [(bind_head?_eq_some_iff _ value).2 ⟨others, choices⟩] at found
              cases found

theorem defaults_of_each_spelling (item : List (String × Value))
    (noItems : item.lookup "items" = none) (single : item.lookup "type" ≠ some (.text "array")) :
    ∃ parameters, (∀ other, DefaultsOf item other ↔ other = parameters) ∧
      ∀ schema, Spells (.object item) schema → defaults schema = parameters := by
  refine ⟨itemDefaults (.object item), defaultsOf_iff item, fun schema spells => ?_⟩
  exact (spells.firstItem noItems single).defaults_eq

def nullDefault : List (String × Value) :=
  [("enum", .list [.text "always", .text "never"]), ("default", .null)]

def nullDefaultInList : Value :=
  .object [("type", .text "array"), ("items", .list [.object nullDefault, .bool true])]

theorem defaults_nullDefault :
    nullDefault.lookup "items" = none ∧ nullDefault.lookup "type" ≠ some (.text "array") ∧
      Spells (.object nullDefault) nullDefaultInList ∧
      defaults (.object nullDefault) = [.unnamed .null] ∧
      defaults nullDefaultInList = [.unnamed .null] := by
  have noItems : nullDefault.lookup "items" = none := rfl
  have single : nullDefault.lookup "type" ≠ some (.text "array") := by
    simp [nullDefault, lookup_cons_eq_ite]
  have undeclared (properties : List (String × Value)) :
      nullDefault.lookup "properties" ≠ some (.object properties) := by
    simp [nullDefault, lookup_cons_eq_ite]
  have listed : Spells (.object nullDefault) nullDefaultInList := .listedInItems rfl
  obtain ⟨parameters, only, same⟩ := defaults_of_each_spelling nullDefault noItems single
  obtain rfl := (only [.unnamed .null]).1 (.own undeclared rfl)
  exact ⟨noItems, single, listed, same _ .alone, same _ listed⟩

end LintAdapter.Rule.Schema
