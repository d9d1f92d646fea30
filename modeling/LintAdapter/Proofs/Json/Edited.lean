import LintAdapter.Proofs.Json.Accepted
import LintAdapter.Proofs.Json.Record

namespace LintAdapter.Json

namespace Tree

inductive ListEdits (edits : Tree → Tree → Prop) : Tree → Tree → Prop
  | same (tree : Tree) : ListEdits edits tree tree
  | list {items edited : List Tree} (each : List.Forall₂ edits items edited) :
      ListEdits edits (.list items none) (.list edited none)

inductive MemberEdits (fields : List (String × (Tree → Tree → Prop))) :
    List Piece × Tree → List Piece × Tree → Prop
  | same (member : List Piece × Tree) : MemberEdits fields member member
  | field {pieces : List Piece} {name : String} {edits : Tree → Tree → Prop} {value edited : Tree}
      (decoded : decodeString pieces = .ok name) (known : (name, edits) ∈ fields)
      (edit : edits value edited) : MemberEdits fields (pieces, value) (pieces, edited)

inductive ItemEdits : List (String × (Tree → Tree → Prop)) → List Tree → List Tree → Prop
  | done (fields : List (String × (Tree → Tree → Prop))) : ItemEdits fields [] []
  | item {field : String × (Tree → Tree → Prop)} {fields : List (String × (Tree → Tree → Prop))}
      {item edited : Tree} {items others : List Tree} (edit : field.2 item edited)
      (rest : ItemEdits fields items others) :
      ItemEdits (field :: fields) (item :: items) (edited :: others)

structure IsUnknown (names : List String) (member : List Piece × Tree) : Prop where
  named : ∃ name, decodeString member.1 = .ok name ∧ name ∉ names
  whole : member.2.Whole

/-- The members of a record's object are edited one by one and put in any order among unknown ones
that are added. A record may also be a list of its fields. -/
inductive RecordEdits (fields : List (String × (Tree → Tree → Prop))) : Tree → Tree → Prop
  | same (tree : Tree) : RecordEdits fields tree tree
  | object {members kept added edited : List (List Piece × Tree)}
      (each : List.Forall₂ (MemberEdits fields) members kept)
      (unknown : ∀ member ∈ added, IsUnknown (fields.map Prod.fst) member)
      (order : edited.Perm (kept ++ added)) :
      RecordEdits fields (.object members none) (.object edited none)
  | list {items edited : List Tree} (each : ItemEdits fields items edited) :
      RecordEdits fields (.list items none) (.list edited none)

/-- Edits make no value of nothing, nor nothing of a value. -/
def SpareNull (edits : Tree → Tree → Prop) : Prop :=
  ∀ tree edited, edits tree edited → (tree = .null ↔ edited = .null)

theorem spareNull_listEdits (edits : Tree → Tree → Prop) : SpareNull (ListEdits edits) := by
  rintro _ _ (tree | each)
  · exact Iff.rfl
  · exact iff_of_false nofun nofun

theorem spareNull_recordEdits (fields : List (String × (Tree → Tree → Prop))) :
    SpareNull (RecordEdits fields) := by
  rintro _ _ (tree | ⟨each, unknown, order⟩ | each)
  · exact Iff.rfl
  · exact iff_of_false nofun nofun
  · exact iff_of_false nofun nofun

end Tree

namespace Decoder

open LintAdapter.Json.Tree (ListEdits MemberEdits ItemEdits IsUnknown RecordEdits SpareNull)

variable {α β ρ : Type} {decode : Decoder α} {edits : Tree → Tree → Prop}

def Keeps (decode : Decoder α) (edits : Tree → Tree → Prop) : Prop :=
  ∀ room tree edited a, edits tree edited → decode room tree = .ok a → decode room edited = .ok a

theorem keeps_eq (decode : Decoder α) : Keeps decode Eq := by
  rintro room tree _ a rfl read
  exact read

theorem Keeps.map (keeps : Keeps decode edits) (f : α → β) :
    Keeps (fun room tree => f <$> decode room tree) edits := by
  intro room tree edited b edit read
  obtain ⟨a, read, same⟩ := map_eq_ok_iff.1 read
  exact map_eq_ok_iff.2 ⟨a, keeps room tree edited a edit read, same⟩

theorem Keeps.optional (keeps : Keeps decode edits) (spareNull : SpareNull edits) :
    Keeps (optional decode) edits := by
  intro room tree edited option edit read
  have same := spareNull tree edited edit
  by_cases null : tree = .null
  · rw [same.1 null, ← null]
    exact read
  · rw [optional_of_ne_null decode room null] at read
    rw [optional_of_ne_null decode room (mt same.2 null)]
    exact keeps.map some room tree edited option edit read

theorem forall₂_edited {γ δ ε : Type} {edit : γ → δ → Prop} {source : γ → ε → Prop}
    {target : δ → ε → Prop} (keeps : ∀ x y a, edit x y → source x a → target y a) {xs : List γ}
    {ys : List δ} {as : List ε} (each : List.Forall₂ edit xs ys)
    (sources : List.Forall₂ source xs as) : List.Forall₂ target ys as := by
  induction each generalizing as with
  | nil =>
      cases sources
      exact .nil
  | cons first _ ih =>
      cases sources with
      | cons own sources => exact .cons (keeps _ _ _ first own) (ih sources)

theorem Keeps.list (keeps : Keeps decode edits) : Keeps (list decode) (ListEdits edits) := by
  rintro room _ _ as (tree | @⟨items, edited, each⟩) read
  · exact read
  · obtain ⟨deep, trees, same, reads⟩ := (list_eq_ok_iff decode room _ as).1 read
    cases same
    have readsEdited := forall₂_edited (keeps (room - 1)) each reads
    exact (list_eq_ok_iff decode room _ as).2 ⟨deep, edited, rfl, readsEdited⟩

namespace Record

variable {record : Record ρ} {room : Nat} {fields : List (String × (Tree → Tree → Prop))}

structure KeepsField (field : Field ρ) (named : String × (Tree → Tree → Prop)) : Prop where
  name : field.name = named.1
  keeps : Keeps field.decode named.2

theorem names_eq {own : List (Field ρ)} (keeps : List.Forall₂ KeepsField own fields) :
    own.map Field.name = fields.map Prod.fst := by
  induction keeps with
  | nil => rfl
  | cons first _ ih => rw [List.map_cons, List.map_cons, first.name, ih]

theorem exists_keepsField {own : List (Field ρ)} (keeps : List.Forall₂ KeepsField own fields)
    {named : String × (Tree → Tree → Prop)} (known : named ∈ fields) :
    ∃ field ∈ own, KeepsField field named := by
  induction keeps with
  | nil => exact absurd known List.not_mem_nil
  | cons first _ ih =>
      rcases List.mem_cons.1 known with rfl | later
      · exact ⟨_, List.mem_cons_self, first⟩
      · obtain ⟨field, mem, keepsField⟩ := ih later
        exact ⟨field, List.mem_cons_of_mem _ mem, keepsField⟩

theorem Says.edited (once : (record.fields.map Field.name).Nodup)
    (keeps : List.Forall₂ KeepsField record.fields fields) {member edited : List Piece × Tree}
    {said : Option (String × (ρ → ρ))} (edit : MemberEdits fields member edited)
    (own : Says record room member said) : Says record room edited said := by
  cases edit with
  | same => exact own
  | @field pieces name edits value edited decoded known edit =>
      obtain ⟨field, mem, ⟨rfl, keepsValue⟩⟩ := exists_keepsField keeps known
      have found := find?_name once mem
      cases own with
      | unknown own unknown => 
          rw [own] at decoded
          cases decoded
          rw [found] at unknown
          cases unknown
      | field own other read => 
          rw [own] at decoded
          cases decoded
          rw [found] at other
          cases other
          exact .field own found (keepsValue _ _ _ _ edit read)

theorem Says.of_isUnknown (keeps : List.Forall₂ KeepsField record.fields fields)
    {member : List Piece × Tree} (unknown : IsUnknown (fields.map Prod.fst) member) :
    Says record room member none := by
  obtain ⟨⟨name, decoded, absent⟩, whole⟩ := unknown
  refine .unknown decoded (List.find?_eq_none.2 fun field mem same => absent ?_) whole
  rw [← names_eq keeps]
  exact List.mem_map.2 ⟨field, mem, by simpa using same⟩

theorem exists_says_edited (once : (record.fields.map Field.name).Nodup)
    (keeps : List.Forall₂ KeepsField record.fields fields)
    {members kept added edited : List (List Piece × Tree)}
    (each : List.Forall₂ (MemberEdits fields) members kept)
    (unknown : ∀ member ∈ added, IsUnknown (fields.map Prod.fst) member)
    (order : edited.Perm (kept ++ added)) {said : List (Option (String × (ρ → ρ)))}
    (own : List.Forall₂ (Says record room) members said) :
    ∃ others, List.Forall₂ (Says record room) edited others ∧
      others.reduceOption.Perm said.reduceOption := by
  have saidKept : List.Forall₂ (Says record room) kept said :=
    forall₂_edited (fun _ _ _ edit own => own.edited once keeps edit) each own
  have saidAdded : List.Forall₂ (Says record room) added (added.map fun _ => none) := by
    rw [List.forall₂_map_right_iff, List.forall₂_same]
    exact fun member mem => .of_isUnknown keeps (unknown member mem)
  obtain ⟨others, saidEdited, permuted⟩ :=
    List.perm_comp_forall₂ order (List.rel_append saidKept saidAdded)
  refine ⟨others, saidEdited, ?_⟩
  -- The added members say nothing, so they drop out of what is said.
  have silent : (added.map fun _ => (none : Option (String × (ρ → ρ)))).reduceOption = [] := by
    rw [List.map_const', List.reduceOption_replicate_none]
  have reduced := permuted.filterMap id
  change others.reduceOption.Perm (List.reduceOption _) at reduced
  rwa [List.reduceOption_append, silent, List.append_nil] at reduced

theorem assemble_congr {first second : List (String × (ρ → ρ))}
    (same : ∀ name, first.lookup name = second.lookup name) (fields : List (Field ρ))
    (result : ρ) : assemble first fields result = assemble second fields result := by
  induction fields generalizing result with
  | nil => rfl
  | cons field fields ih =>
      rw [assemble, assemble, same field.name]
      cases second.lookup field.name with
      | some change => exact ih (change result)
      | none => simp only [ih]

theorem Gives.edited {fields : List (Field ρ)} {named : List (String × (Tree → Tree → Prop))}
    (keeps : List.Forall₂ KeepsField fields named) {trees edited : List Tree}
    (each : ItemEdits named trees edited) {start result : ρ}
    (gives : Gives room fields trees start result) : Gives room fields edited start result := by
  induction gives generalizing named edited with
  | done => cases each; exact .done _
  | spare spared rest => cases each; exact .spare spared rest
  | item read rest ih =>
      cases each with
      | item edit each =>
          cases keeps with
          | cons keepsField keeps => exact .item (keepsField.keeps _ _ _ _ edit read) (ih keeps each)

/-- A record is read without regard to the order of its members and to unknown ones among them. -/
theorem keeps_decode (once : (record.fields.map Field.name).Nodup)
    (keeps : List.Forall₂ KeepsField record.fields fields) :
    Keeps record.decode (RecordEdits fields) := by
  rintro room _ _ result (tree | @⟨members, kept, added, edited, each, unknown, order⟩ | each) read
  · exact read
  · obtain ⟨deep, -, said, own, distinct, assembled⟩ :=
      (decode_object_eq_ok_iff members none result).1 read
    obtain ⟨others, ownEdited, permuted⟩ :=
      exists_says_edited once keeps each unknown order own
    have distinctEdited := ((permuted.map Prod.fst).nodup_iff).2 distinct
    refine (decode_object_eq_ok_iff edited none result).2
      ⟨deep, rfl, others, ownEdited, distinctEdited, ?_⟩
    rw [← assembled]
    exact assemble_congr (fun name => lookup_perm permuted distinctEdited name) _ _
  · obtain ⟨deep, -, gives⟩ := (decode_list_eq_ok_iff _ none result).1 read
    exact (decode_list_eq_ok_iff _ none result).2 ⟨deep, rfl, gives.edited keeps each⟩

end Record

end Decoder

end LintAdapter.Json
