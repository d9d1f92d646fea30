import LintAdapter.Proofs.Rule.Setting
import LintAdapter.Rule.Metadata

namespace LintAdapter

namespace Json.Value

theorem names_nodup_of_merged {value : Value} {members : List (String × Value)}
    (same : value.merged = .object members) : (members.map Prod.fst).Nodup := by
  cases value with
  | object raw =>
      rw [merged] at same
      cases same
      exact Members.nodup_merge _
  | _ => cases same

theorem head_of_merged {value item : Value} {rest : List Value}
    (same : value.merged = .list (item :: rest)) : ∃ raw : Value, item = raw.merged := by
  cases value with
  | list items =>
      rw [merged, mergedItems_eq_map] at same
      cases items with
      | nil => cases same
      | cons raw others =>
          cases same
          exact ⟨raw, rfl⟩
  | _ => cases same

theorem member_of_merged {value held : Value} {members : List (String × Value)} {name : String}
    (same : value.merged = .object members) (found : members.lookup name = some held) :
    ∃ raw : Value, held = raw.merged := by
  cases value with
  | object raw =>
      rw [merged] at same
      cases same
      rw [lookup_merged_members] at found
      obtain ⟨written, -, merges⟩ := Option.map_eq_some_iff.1 found
      exact ⟨written, merges.symm⟩
  | _ => cases same

end Json.Value

namespace Rule

open Json (Value)

namespace Schema

inductive FirstItem : Value → Value → Prop
  | ofList (item : Value) (rest : List Value) : FirstItem (.list (item :: rest)) item
  | ofItems {members : List (String × Value)} {item : Value} {rest : List Value}
      (items : members.lookup "items" = some (.list (item :: rest))) :
      FirstItem (.object members) item
  | ofItem {members item : List (String × Value)}
      (items : members.lookup "items" = some (.object item)) :
      FirstItem (.object members) (.object item)
  | itself {members : List (String × Value)} (noItems : members.lookup "items" = none)
      (single : members.lookup "type" ≠ some (.text "array")) :
      FirstItem (.object members) (.object members)

def Declares (schema : Value) (properties : List (String × Value)) : Prop :=
  ∃ members, FirstItem schema (.object members) ∧
    members.lookup "properties" = some (.object properties)

def declaredDefaults (properties : List (String × Value)) : List (String × Value) :=
  properties.filterMap fun (name, property) => (property.get? "default").map (name, ·)

/-- Declared defaults make one object, and what else a schema may be gives at most one option. -/
structure InDeclaredShape (schema : Value) (setting : Setting) : Prop where
  plain : ∀ properties, Declares schema properties → declaredDefaults properties = [] →
    setting = .enabled
  object : ∀ properties, Declares schema properties → declaredDefaults properties ≠ [] →
    setting = .withOptions [.object (declaredDefaults properties)]
  other : (∀ properties, ¬ Declares schema properties) →
    setting = .enabled ∨ ∃ value, setting = .withOptions [value]

theorem bind_text?_eq_some_iff (value : Option Value) (text : String) :
    value.bind Value.text? = some text ↔ value = some (.text text) := by
  rw [Option.bind_eq_some_iff]
  constructor
  · rintro ⟨held, rfl, isText⟩
    cases held with
    | text given => rw [Option.some.inj isText]
    | _ => cases isText
  · rintro rfl
    exact ⟨_, rfl, rfl⟩

theorem firstItem?_eq_some_iff (schema item : Value) :
    firstItem? schema = some item ↔ FirstItem schema item := by
  constructor
  · fun_cases firstItem? schema with
    | case1 items =>
        intro found
        obtain ⟨rest, rfl⟩ := List.head?_eq_some_iff.1 found
        exact .ofList item rest
    | case2 members items listed =>
        intro found
        obtain ⟨rest, rfl⟩ := List.head?_eq_some_iff.1 found
        exact .ofItems listed
    | case3 members held single =>
        rintro ⟨⟩
        exact .ofItem single
    | case4 => rintro ⟨⟩
    | case5 => rintro ⟨⟩
    | case6 members noItems notArray =>
        rintro ⟨⟩
        exact .itself noItems (mt (bind_text?_eq_some_iff _ _).2 notArray)
    | case7 => rintro ⟨⟩
  · rintro (_ | items | items | ⟨noItems, single⟩)
    · rfl
    · rw [firstItem?, items]
      rfl
    · rw [firstItem?, items]
    · rw [firstItem?, noItems]
      exact if_neg (mt (bind_text?_eq_some_iff _ _).1 single)

theorem declares_iff (schema : Value) (properties : List (String × Value)) :
    Declares schema properties ↔ ∃ item, firstItem? schema = some item ∧
      (item.get? "properties").bind Value.members? = some properties := by
  simp only [firstItem?_eq_some_iff]
  constructor
  · rintro ⟨members, first, declared⟩
    exact ⟨_, first, by rw [Value.get?, declared]; rfl⟩
  · rintro ⟨item, first, declared⟩
    obtain ⟨held, atName, isObject⟩ := Option.bind_eq_some_iff.1 declared
    cases held with
    | object members =>
        cases item with
        | object outer =>
            cases isObject
            exact ⟨outer, first, atName⟩
        | _ => cases atName
    | _ => cases isObject

theorem FirstItem.exists_merged {schema item : Value} (first : FirstItem schema.merged item) :
    ∃ raw : Value, item = raw.merged := by
  generalize same : schema.merged = read at first
  cases first with
  | ofList item rest => exact Value.head_of_merged same
  | ofItems items =>
      obtain ⟨raw, held⟩ := Value.member_of_merged same items
      exact Value.head_of_merged held.symm
  | ofItem items => exact Value.member_of_merged same items
  | itself => exact ⟨schema, same.symm⟩

theorem Declares.names_nodup {schema : Value} {properties : List (String × Value)}
    (declares : Declares schema.merged properties) : (properties.map Prod.fst).Nodup := by
  obtain ⟨members, first, declared⟩ := declares
  obtain ⟨item, same⟩ := first.exists_merged
  obtain ⟨raw, held⟩ := Value.member_of_merged same.symm declared
  exact Value.names_nodup_of_merged held.symm

theorem propertyDefaults_eq (properties : List (String × Value)) :
    propertyDefaults properties =
      (declaredDefaults properties).map fun member => ⟨member.1, member.2⟩ := by
  rw [declaredDefaults, List.map_filterMap]
  simp only [Option.map_map, Function.comp_def]
  rfl

theorem defaults_of_declares {schema : Value} {properties : List (String × Value)}
    (declares : Declares schema properties) :
    defaults schema = (declaredDefaults properties).map fun member => ⟨member.1, member.2⟩ := by
  obtain ⟨item, first, declared⟩ := (declares_iff schema properties).1 declares
  rw [defaults, first, ← propertyDefaults_eq]
  change itemDefaults item = _
  rw [itemDefaults, declared]

theorem defaults_of_not_declares {schema : Value}
    (undeclared : ∀ properties, ¬ Declares schema properties) :
    defaults schema = [] ∨ ∃ value, defaults schema = [.unnamed value] := by
  rw [defaults]
  cases first : firstItem? schema with
  | none => exact .inl rfl
  | some item =>
      change itemDefaults item = [] ∨ ∃ value, itemDefaults item = [.unnamed value]
      cases declared : (item.get? "properties").bind Value.members? with
      | some properties =>
          exact absurd ((declares_iff _ _).2 ⟨item, first, declared⟩) (undeclared properties)
      | none =>
          rw [itemDefaults, declared]
          cases positionalDefault? item with
          | none => exact .inl rfl
          | some value => exact .inr ⟨value, rfl⟩

theorem map_snd_filter_eq_lookup {pairs : List (String × Value)}
    (once : (pairs.map Prod.fst).Nodup) (name : String) :
    (pairs.filter (·.1 == name)).map Prod.snd = (pairs.lookup name).toList := by
  induction pairs with
  | nil => rfl
  | cons pair rest ih =>
      obtain ⟨key, value⟩ := pair
      rw [List.map_cons, List.nodup_cons] at once
      rw [List.filter_cons, lookup_cons_eq_ite]
      by_cases same : name = key
      · subst same
        have absent : rest.lookup name = none := by
          rw [lookup_eq_lastValue? once.2, lastValue?_eq_none_iff]
          exact once.1
        simp [ih once.2, absent]
      · simp [ih once.2, same, Ne.symm same]

theorem optionsOf_declared {declared : List (String × Value)}
    (once : (declared.map Prod.fst).Nodup) :
    Setting.optionsOf (declared.map fun member => ⟨member.1, member.2⟩) =
      (declared.lookup "unnamedParam").toList ++
        objectOption (declared.filter (·.1 != "unnamedParam")) := by
  have positional : positionalValues (declared.map fun member => ⟨member.1, member.2⟩) =
      (declared.lookup "unnamedParam").toList := by
    rw [← map_snd_filter_eq_lookup once, positionalValues, List.filter_map, List.map_map]
    rfl
  have named : namedMembers (declared.map fun member => ⟨member.1, member.2⟩) =
      declared.filter (·.1 != "unnamedParam") := by
    rw [namedMembers, List.filter_map, List.map_map]
    exact List.map_id _
  have onceNamed : ((declared.filter (·.1 != "unnamedParam")).map Prod.fst).Nodup :=
    once.sublist (List.filter_sublist.map Prod.fst)
  rw [optionsOf_eq, positional, named, Json.Members.merge_of_nodup onceNamed]

theorem ofDefaults_map {declared : List (String × Value)}
    (once : (declared.map Prod.fst).Nodup) :
    Setting.ofDefaults (declared.map fun member => ⟨member.1, member.2⟩) =
      if declared = [] then .enabled
      else .withOptions ((declared.lookup "unnamedParam").toList ++
        objectOption (declared.filter (·.1 != "unnamedParam"))) := by
  rw [Setting.ofDefaults, Setting.ofParameters, optionsOf_declared once]
  simp only [List.isEmpty_iff, List.map_eq_nil_iff]

theorem declaredDefaults_cons (name : String) (property : Value) (rest : List (String × Value)) :
    declaredDefaults ((name, property) :: rest) =
      ((property.get? "default").map (name, ·)).toList ++ declaredDefaults rest := by
  rw [declaredDefaults, List.filterMap_cons]
  dsimp only
  cases property.get? "default" <;> rfl

theorem names_declaredDefaults_sublist (properties : List (String × Value)) :
    ((declaredDefaults properties).map Prod.fst).Sublist (properties.map Prod.fst) := by
  induction properties with
  | nil => exact List.Sublist.refl []
  | cons member rest ih =>
      obtain ⟨name, property⟩ := member
      rw [declaredDefaults_cons]
      cases property.get? "default" with
      | none => exact ih.cons name
      | some value => exact ih.cons_cons name

theorem ne_object_of_mem {name : String} {value : Value} {members : List (String × Value)}
    (member : (name, value) ∈ members) : value ≠ .object members := by
  intro same
  have smaller := List.sizeOf_lt_of_mem member
  have equal := congrArg sizeOf same
  rw [Prod.mk.sizeOf_spec] at smaller
  rw [Value.object.sizeOf_spec] at equal
  omega

section

variable {declared : List (String × Value)} (once : (declared.map Prod.fst).Nodup)

include once

theorem ofDefaults_map_of_not_mem (notReserved : "unnamedParam" ∉ declared.map Prod.fst) :
    Setting.ofDefaults (declared.map fun member => ⟨member.1, member.2⟩) =
      if declared = [] then .enabled else .withOptions [.object declared] := by
  have absent : declared.lookup "unnamedParam" = none := by
    rw [lookup_eq_lastValue? once, lastValue?_eq_none_iff]
    exact notReserved
  have all : declared.filter (·.1 != "unnamedParam") = declared := by
    rw [List.filter_eq_self]
    intro member isMember
    rw [bne_iff_ne]
    rintro reserved
    exact notReserved (reserved ▸ List.mem_map_of_mem isMember)
  rw [ofDefaults_map once, absent, all, objectOption]
  split_ifs with empty
  · rfl
  · rfl

theorem ofDefaults_map_of_mem {value : Value} (reserved : ("unnamedParam", value) ∈ declared) :
    Setting.ofDefaults (declared.map fun member => ⟨member.1, member.2⟩) =
      .withOptions (value :: objectOption (declared.filter (·.1 != "unnamedParam"))) := by
  have found : declared.lookup "unnamedParam" = some value := by
    rw [lookup_eq_lastValue? once]
    exact (lastValue?_eq_some_iff_mem once _ _).2 reserved
  rw [ofDefaults_map once, found, if_neg (List.ne_nil_of_mem reserved)]
  rfl

theorem length_options_ofDefaults_map_le_one_iff :
    (Setting.ofDefaults (declared.map fun member => ⟨member.1, member.2⟩)).options.length ≤ 1 ↔
      ("unnamedParam" ∈ declared.map Prod.fst →
        ∀ name ∈ declared.map Prod.fst, name = "unnamedParam") := by
  by_cases reserved : "unnamedParam" ∈ declared.map Prod.fst
  · obtain ⟨⟨_, value⟩, member, rfl⟩ := List.mem_map.1 reserved
    rw [ofDefaults_map_of_mem once member, Setting.options]
    simp [reserved, objectOption_eq_nil_iff]
  · rw [ofDefaults_map_of_not_mem once reserved]
    simp only [reserved, false_imp_iff, iff_true]
    split_ifs
    · exact Nat.zero_le 1
    · exact Nat.le_refl 1

end

theorem ofDefaults_of_not_declares {schema : Value}
    (undeclared : ∀ properties, ¬ Declares schema properties) :
    Setting.ofDefaults (defaults schema) = .enabled ∨
      ∃ value, Setting.ofDefaults (defaults schema) = .withOptions [value] := by
  rcases defaults_of_not_declares undeclared with none | ⟨value, one⟩
  · exact .inl (by rw [none]; rfl)
  · exact .inr ⟨value, by rw [one]; rfl⟩

section

variable {schema : Value}
  (once : ∀ properties, Declares schema properties → (properties.map Prod.fst).Nodup)

include once

theorem nodup_names_declaredDefaults {properties : List (String × Value)}
    (declares : Declares schema properties) :
    ((declaredDefaults properties).map Prod.fst).Nodup :=
  (once properties declares).sublist (names_declaredDefaults_sublist properties)

theorem ofDefaults_of_declares_of_mem (properties : List (String × Value)) (value : Value)
    (declares : Declares schema properties)
    (reserved : ("unnamedParam", value) ∈ declaredDefaults properties) :
    Setting.ofDefaults (defaults schema) = .withOptions (value ::
      objectOption ((declaredDefaults properties).filter (·.1 != "unnamedParam"))) := by
  rw [defaults_of_declares declares,
    ofDefaults_map_of_mem (nodup_names_declaredDefaults once declares) reserved]

theorem inDeclaredShape_iff :
    InDeclaredShape schema (Setting.ofDefaults (defaults schema)) ↔
      ∀ properties, Declares schema properties →
        "unnamedParam" ∉ (declaredDefaults properties).map Prod.fst := by
  constructor
  · intro shape properties declares reserved
    obtain ⟨⟨_, value⟩, member, rfl⟩ := List.mem_map.1 reserved
    have object := shape.object properties declares (List.ne_nil_of_mem member)
    rw [ofDefaults_of_declares_of_mem once properties value declares member,
      Setting.withOptions.injEq, List.cons.injEq] at object
    -- The first option is the default itself, which is not the object that it stands in.
    exact ne_object_of_mem member object.1
  · intro free
    have shape {properties : List (String × Value)} (declares : Declares schema properties) :
        Setting.ofDefaults (defaults schema) = if declaredDefaults properties = [] then .enabled
          else .withOptions [.object (declaredDefaults properties)] := by
      rw [defaults_of_declares declares,
        ofDefaults_map_of_not_mem (nodup_names_declaredDefaults once declares)
          (free properties declares)]
    refine ⟨?_, ?_, ofDefaults_of_not_declares⟩
    · intro properties declares none
      rw [shape declares, if_pos none]
    · intro properties declares some
      rw [shape declares, if_neg some]

theorem length_options_ofDefaults_le_one_iff :
    (Setting.ofDefaults (defaults schema)).options.length ≤ 1 ↔
      ∀ properties, Declares schema properties →
        "unnamedParam" ∈ (declaredDefaults properties).map Prod.fst →
          ∀ name ∈ (declaredDefaults properties).map Prod.fst, name = "unnamedParam" := by
  constructor
  · intro short properties declares
    rw [defaults_of_declares declares] at short
    exact (length_options_ofDefaults_map_le_one_iff
      (nodup_names_declaredDefaults once declares)).1 short
  · intro alone
    by_cases declared : ∃ properties, Declares schema properties
    · obtain ⟨properties, declares⟩ := declared
      rw [defaults_of_declares declares]
      exact (length_options_ofDefaults_map_le_one_iff
        (nodup_names_declaredDefaults once declares)).2 (alone properties declares)
    · rcases ofDefaults_of_not_declares (not_exists.1 declared) with plain | ⟨value, one⟩
      · rw [plain]
        exact Nat.zero_le 1
      · rw [one]
        exact Nat.le_refl 1

end

theorem defaultSetting_inDeclaredShape_iff (metadata : Metadata) (schema : Value)
    (given : metadata.schema = some schema.merged) :
    (InDeclaredShape schema.merged metadata.defaultSetting ↔
      ∀ properties, Declares schema.merged properties →
        "unnamedParam" ∉ (declaredDefaults properties).map Prod.fst) ∧
    (∀ properties value, Declares schema.merged properties →
      ("unnamedParam", value) ∈ declaredDefaults properties →
        metadata.defaultSetting = .withOptions (value ::
          objectOption ((declaredDefaults properties).filter (·.1 != "unnamedParam")))) ∧
    (metadata.defaultSetting.options.length ≤ 1 ↔
      ∀ properties, Declares schema.merged properties →
        "unnamedParam" ∈ (declaredDefaults properties).map Prod.fst →
          ∀ name ∈ (declaredDefaults properties).map Prod.fst, name = "unnamedParam") := by
  have derived : metadata.defaultSetting = .ofDefaults (defaults schema.merged) := by
    rw [Metadata.defaultSetting, Metadata.defaults, given]
  -- A schema that is read has its members merged, so no property stands in it twice.
  have once (properties : List (String × Value)) (declares : Declares schema.merged properties) :
      (properties.map Prod.fst).Nodup := declares.names_nodup
  rw [derived]
  exact ⟨inDeclaredShape_iff once, ofDefaults_of_declares_of_mem once,
    length_options_ofDefaults_le_one_iff once⟩

def limits : Value :=
  .list [.object [("properties", .object [
    ("max", .object [("default", .ofNat 3)]),
    ("skip", .object []),
    ("ignore", .object [("default", .bool false)])])]]

theorem defaultSetting_limits :
    InDeclaredShape limits (Metadata.mk false true (some limits)).defaultSetting ∧
      (Metadata.mk false true (some limits)).defaultSetting =
        .withOptions [.object [("max", .ofNat 3), ("ignore", .bool false)]] := by
  have read : limits.merged = limits := rfl
  have only (properties : List (String × Value)) (declares : Declares limits properties) :
      properties = [("max", .object [("default", .ofNat 3)]), ("skip", .object []),
        ("ignore", .object [("default", .bool false)])] := by
    obtain ⟨item, first, declared⟩ := (declares_iff _ _).1 declares
    cases first
    cases declared
    rfl
  have given : (Metadata.mk false true (some limits)).schema = some limits.merged := by
    rw [read]
  obtain ⟨shape, -, -⟩ := defaultSetting_inDeclaredShape_iff _ limits given
  rw [read] at shape
  refine ⟨shape.2 fun properties declares => ?_, rfl⟩
  rw [only properties declares]
  decide

def reservedName : Value :=
  .list [.object [("properties", .object [
    ("a", .object [("default", .ofNat 1)]),
    ("unnamedParam", .object [("default", .ofNat 2)])])]]

theorem defaultSetting_reservedName :
    reservedName.merged = reservedName ∧
    Declares reservedName [("a", .object [("default", .ofNat 1)]),
      ("unnamedParam", .object [("default", .ofNat 2)])] ∧
    (Metadata.mk false true (some reservedName)).defaultSetting =
      .withOptions [.ofNat 2, .object [("a", .ofNat 1)]] ∧
    (Metadata.mk false true (some reservedName)).defaultSetting.toValue.compact =
      "[\"error\",2,\x7b\"a\":1\x7d]" ∧
    ¬ InDeclaredShape reservedName (Metadata.mk false true (some reservedName)).defaultSetting := by
  have declares : Declares reservedName [("a", .object [("default", .ofNat 1)]),
      ("unnamedParam", .object [("default", .ofNat 2)])] :=
    (declares_iff _ _).2 ⟨_, rfl, rfl⟩
  refine ⟨rfl, declares, rfl, by decide, fun shape => ?_⟩
  have object := shape.object _ declares (List.cons_ne_nil _ _)
  cases object

end Schema

end Rule

end LintAdapter
