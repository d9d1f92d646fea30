import LintAdapter.Proofs.Catalog.Whole

namespace LintAdapter

open Json (Value Token)

namespace Rule.Metadata

inductive DocsShape : Value → Prop
  | null : DocsShape .null
  | object (members : List (String × Value)) : DocsShape (.object members)
  | list (items : List Value) (short : items.length ≤ 1) : DocsShape (.list items)

inductive Shape : Value → Prop
  | object (members : List (String × Value))
      (docs : ∀ docs, lastValue? members "docs" = some docs → DocsShape docs) :
      Shape (.object members)
  | list (items : List Value) (short : items.length ≤ 3)
      (docs : ∀ docs, items[2]? = some docs → DocsShape docs) : Shape (.list items)

inductive ObjectShape : Value → Prop
  | object (members : List (String × Value))
      (docs : ∀ docs, lastValue? members "docs" = some docs →
        docs = .null ∨ ∃ parts, docs = .object parts) :
      ObjectShape (.object members)

def IsList (value : Value) : Prop := ∃ items, value = .list items

theorem exists_recommendedOf_eq_ok_iff (docs : Option Value) :
    (∃ recommended, recommendedOf (present (docs.map Value.merged)) = .ok recommended) ↔
      ∀ given, docs = some given → DocsShape given := by
  constructor
  · rintro ⟨recommended, read⟩ given rfl
    cases given with
    | null => exact .null
    | object members => exact .object members
    | list items =>
        match items with
        | [] => exact .list [] (Nat.zero_le 1)
        | [item] => exact .list [item] (Nat.le_refl 1)
        | _ :: _ :: _ => cases read
    | bool value => cases read
    | number value => cases read
    | text value => cases read
  · intro shape
    cases docs with
    | none => exact ⟨none, rfl⟩
    | some docs =>
        cases shape docs rfl with
        | null => exact ⟨none, rfl⟩
        | object members => exact ⟨_, rfl⟩
        | list items short =>
            match items, short with
            | [], _ => exact ⟨none, rfl⟩
            | [item], _ => exact ⟨_, rfl⟩

theorem exists_ofValue_iff_raw (value : Value) :
    (∃ metadata, ofValue value = .ok metadata) ↔ ∃ raw, Raw.ofValue value = .ok raw := by
  simp only [ofValue_eq_ok_iff]
  constructor
  · rintro ⟨_, raw, read, -⟩
    exact ⟨raw, read⟩
  · rintro ⟨raw, read⟩
    exact ⟨ofRaw raw, raw, read, rfl⟩

theorem exists_ofValue_object_iff (members : List (String × Value)) :
    (∃ metadata, ofValue (Value.object members).merged = .ok metadata) ↔
      ∀ docs, lastValue? members "docs" = some docs → DocsShape docs := by
  rw [exists_ofValue_iff_raw, ← exists_recommendedOf_eq_ok_iff, Value.merged, Raw.ofValue,
    Value.lookup_merged_members]
  cases recommendedOf (present ((lastValue? members "docs").map Value.merged)) with
  | error fault => simp [bind, Except.bind]
  | ok recommended => simp [bind, Except.bind, pure, Except.pure]

theorem exists_ofValue_list_iff (items : List Value) :
    (∃ metadata, ofValue (Value.list items).merged = .ok metadata) ↔
      items.length ≤ 3 ∧ ∀ docs, items[2]? = some docs → DocsShape docs := by
  rw [exists_ofValue_iff_raw, ← exists_recommendedOf_eq_ok_iff, Value.merged,
    Value.mergedItems_eq_map, Raw.ofValue, List.getElem?_map, List.length_map]
  cases recommendedOf (present (items[2]?.map Value.merged)) with
  | error fault => simp [bind, Except.bind]
  | ok recommended =>
      by_cases long : 3 < items.length
      · simp [bind, Except.bind, throw, throwThe, MonadExceptOf.throw, long]
      · simp [bind, Except.bind, pure, Except.pure, long, Nat.le_of_not_lt long]

theorem exists_ofValue_eq_ok_iff (given : Value) :
    (∃ metadata, ofValue given.merged = .ok metadata) ↔ Shape given := by
  constructor
  · rintro ⟨metadata, read⟩
    cases given with
    | object members =>
        exact .object members ((exists_ofValue_object_iff members).1 ⟨metadata, read⟩)
    | list items =>
        obtain ⟨short, docs⟩ := (exists_ofValue_list_iff items).1 ⟨metadata, read⟩
        exact .list items short docs
    | null => cases read
    | bool value => cases read
    | number value => cases read
    | text value => cases read
  · rintro (⟨members, docs⟩ | ⟨items, short, docs⟩)
    · exact (exists_ofValue_object_iff members).2 docs
    · exact (exists_ofValue_list_iff items).2 ⟨short, docs⟩

theorem ofValue_list {items : List Value} (short : items.length ≤ 3) :
    ofValue (Value.list items).merged =
      ofValue (Value.object (["deprecated", "schema", "docs"].zip items)).merged := by
  match items with
  | [] => rfl
  | [deprecated] => rfl
  | [deprecated, schema] => rfl
  | [deprecated, schema, docs] => rfl
  | _ :: _ :: _ :: _ :: _ =>
      simp only [List.length_cons] at short
      omega

theorem Shape.objectShape_iff {value : Value} (shape : Shape value) :
    ObjectShape value ↔
      ¬ IsList value ∧ ∀ docs, part? "docs" 2 value = some docs → ¬ IsList docs := by
  constructor
  · rintro ⟨members, docs⟩
    constructor
    · rintro ⟨items, isList⟩
      cases isList
    · rintro given last ⟨items, rfl⟩
      rcases docs _ last with null | ⟨parts, isObject⟩
      · cases null
      · cases isObject
  · rintro ⟨notList, docsNotList⟩
    cases shape with
    | list items => exact absurd ⟨items, rfl⟩ notList
    | object members docs =>
        refine .object members fun given last => ?_
        cases docs given last with
        | null => exact .inl rfl
        | object parts => exact .inr ⟨parts, rfl⟩
        | list items => exact absurd ⟨items, rfl⟩ (docsNotList _ last)

end Rule.Metadata

namespace Catalog

open Rule (Metadata)

theorem HoldsObject.exists_ofText_eq_ok_iff {text : String} {written : List (String × Value)}
    (object : HoldsObject text written) :
    (∃ entries, ofText text = .ok entries) ↔
      ∀ id value, lastValue? written id = some value → Metadata.Shape value := by
  rw [object.ofText_eq, exists_ofMembers_eq_ok_iff]
  simp only [Prod.forall, Value.mem_merged_members, ← Metadata.exists_ofValue_eq_ok_iff]
  constructor
  · intro all id value last
    exact all id value.merged ⟨value, last, rfl⟩
  · rintro all id _ ⟨value, last, rfl⟩
    exact all id value last

theorem ofText_accepts_shapes (text : String) (written : List (String × Value))
    (object : HoldsObject text written) :
    ((∃ entries, ofText text = .ok entries) ↔
      ∀ id value, lastValue? written id = some value → Metadata.Shape value) ∧
    ∀ entries, ofText text = .ok entries →
      ((∀ id value, lastValue? written id = some value → Metadata.ObjectShape value) ↔
        ∀ id value, lastValue? written id = some value → ¬ Metadata.IsList value ∧
          ∀ docs, Metadata.part? "docs" 2 value = some docs → ¬ Metadata.IsList docs) ∧
      ∀ id items, lastValue? written id = some (.list items) →
        ∃ metadata, ⟨id, metadata⟩ ∈ entries ∧
          Metadata.ofValue
            (Value.object (["deprecated", "schema", "docs"].zip items)).merged = .ok metadata := by
  refine ⟨object.exists_ofText_eq_ok_iff, fun entries accepted => ?_⟩
  have shape := object.exists_ofText_eq_ok_iff.1 ⟨entries, accepted⟩
  constructor
  · exact forall₂_congr fun id value => forall_congr' fun last =>
      (shape id value last).objectShape_iff
  · intro id items last
    rw [object.ofText_eq, ofMembers_eq_ok_iff] at accepted
    obtain ⟨metadata, listed, read⟩ := exists_entry_ofText accepted last
    cases shape id _ last with
    | list items short docs => exact ⟨metadata, listed, Metadata.ofValue_list short ▸ read⟩

def listedMetadata : List (String × Value) :=
  [("semi", .list [.null, .null, .list [.bool true]])]

def listedMetadataText : String := "\x7b\"semi\":[null,null,[true]]\x7d"

theorem ofText_listedMetadata :
    HoldsObject listedMetadataText listedMetadata ∧
      ∃ entries, ofText listedMetadataText = .ok entries ∧
        ⟨"semi", ⟨false, true, none⟩⟩ ∈ entries := by
  have tokens : Token.ofText listedMetadataText.toList = [
      .openObject, .string ("semi".toList.map .plain), .colon, .openList, .null, .comma, .null,
      .comma, .openList, .bool true, .closeList, .closeList, .closeObject] := by
    decide +kernel
  have object : HoldsObject listedMetadataText listedMetadata :=
    holdsObject_of_tokens tokens rfl rfl
  have once : (listedMetadata.map Prod.fst).Nodup := List.nodup_singleton "semi"
  have shape (id : String) (value : Value) (last : lastValue? listedMetadata id = some value) :
      Metadata.Shape value := by
    cases List.mem_singleton.1 ((lastValue?_eq_some_iff_mem once id value).1 last)
    refine .list _ (Nat.le_refl 3) fun docs third => ?_
    cases third
    exact .list _ (Nat.le_refl 1)
  obtain ⟨accepted, shapes⟩ := ofText_accepts_shapes _ _ object
  obtain ⟨entries, read⟩ := accepted.2 shape
  obtain ⟨-, lists⟩ := shapes entries read
  obtain ⟨metadata, listed, converts⟩ := lists "semi" _ rfl
  cases converts
  exact ⟨object, entries, read, listed⟩

def emptyList : String := "\x7b\"semi\":[]\x7d"

theorem ofText_emptyList :
    HoldsObject emptyList [("semi", .list [])] ∧
      ofText emptyList = .ok [⟨"semi", ⟨false, false, none⟩⟩] ∧
      ¬ ∀ id value, lastValue? [("semi", Value.list [])] id = some value →
        Metadata.ObjectShape value := by
  have tokens : Token.ofText emptyList.toList = [
      .openObject, .string ("semi".toList.map .plain), .colon, .openList, .closeList,
      .closeObject] := by
    decide +kernel
  have object : HoldsObject emptyList [("semi", .list [])] := holdsObject_of_tokens tokens rfl rfl
  refine ⟨object, by rw [object.ofText_eq]; rfl, fun all => ?_⟩
  cases all "semi" _ rfl

end Catalog

end LintAdapter
