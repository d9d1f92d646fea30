import LintAdapter.Proofs.Json.Reading

namespace LintAdapter.Json.Decoder

variable {α ρ : Type}

inductive Fills : List (Field ρ) → List (String × Value) → ρ → ρ → Prop
  | done (start : ρ) : Fills [] [] start start
  | skip {field : Field ρ} {fields : List (Field ρ)} {members : List (String × Value)}
      {start result : ρ} (spared : field.needed = false)
      (rest : Fills fields members start result) : Fills (field :: fields) members start result
  | fill {field : Field ρ} {fields : List (Field ρ)} {members : List (String × Value)}
      {start result : ρ} {value : Value} {change : ρ → ρ}
      (reads : Reads field.decode value change)
      (rest : Fills fields members (change start) result) :
      Fills (field :: fields) ((field.name, value) :: members) start result

namespace Fills

variable {fields : List (Field ρ)} {members : List (String × Value)} {start result : ρ}

theorem member {decode : Decoder α} {write : α → Value} {name : String}
    {set : Option α → ρ → ρ} (option : Option α)
    (each : ∀ a, option = some a → Reads decode (write a) a) (notNull : ∀ a, write a ≠ .null)
    (unset : set none start = start) (rest : Fills fields members (set option start) result) :
    Fills (.optional name (Decoder.optional decode) set :: fields)
      (Value.optionalMember name write option ++ members) start result := by
  cases option with
  | none =>
      rw [unset] at rest
      exact .skip rfl rest
  | some a => exact .fill (((each a rfl).present (notNull a)).map set) rest

theorem names_sublist (fills : Fills fields members start result) :
    (members.map Prod.fst).Sublist (fields.map Field.name) := by
  induction fills with
  | done => exact .slnil
  | skip spared rest ih => exact .cons _ ih
  | fill reads rest ih => exact .cons_cons _ ih

theorem exact_object (fills : Fills fields members start result)
    (once : (fields.map Field.name).Nodup) : (Value.object members).Exact := by
  refine .object (once.sublist fills.names_sublist) ?_
  induction fills with
  | done => exact fun _ nothing => absurd nothing List.not_mem_nil
  | skip spared rest ih => exact ih (List.nodup_cons.1 once).2
  | fill reads rest ih =>
      have others := ih (List.nodup_cons.1 once).2
      intro member mem
      rcases List.mem_cons.1 mem with rfl | later
      · exact reads.exact
      · exact others member later

end Fills

theorem collect_of_known {record : Record ρ} {field : Field ρ} {name : String}
    {seen : List (String × (ρ → ρ))} (known : record.fields.find? (·.name = name) = some field)
    (unseen : seen.lookup name = none) (room : Nat) (tree : Tree) (rest : List (List Piece × Tree)) :
    record.collect room seen ((name.toList.map pieceOf, tree) :: rest) =
      field.decode room tree >>= fun change =>
        record.collect room (seen ++ [(name, change)]) rest := by
  rw [Record.collect, decodeString_map_pieceOf]
  simp only [bind, Except.bind, known, unseen, Option.isSome_none, Bool.false_eq_true, ↓reduceIte]

/-- What members say of some fields is collected where there is room for them, and makes one record
of another. -/
structure Tells (record : Record ρ) (fields : List (Field ρ)) (members : List (String × Value))
    (said : List (String × (ρ → ρ))) (start result : ρ) : Prop where
  unsaid : ∀ name, name ∉ fields.map Field.name → said.lookup name = none
  collect : ∀ room seen, (∀ field ∈ fields, seen.lookup field.name = none) →
    record.collect room seen (Value.memberTrees members) =
      within room (Value.memberDepth members) (seen ++ said)
  assemble : ∀ all : List (String × (ρ → ρ)),
    (∀ field ∈ fields, all.lookup field.name = said.lookup field.name) →
      Record.assemble all fields start = .ok result

namespace Tells

variable {record : Record ρ} {field : Field ρ} {fields : List (Field ρ)}
  {members : List (String × Value)} {said : List (String × (ρ → ρ))} {start result : ρ}

theorem done (record : Record ρ) (start : ρ) : Tells record [] [] [] start start := by
  refine ⟨fun name _ => rfl, fun room seen _ => ?_, fun all _ => rfl⟩
  rw [List.append_nil]
  exact (within_zero room seen).symm

theorem skip (spared : field.needed = false) (new : field.name ∉ fields.map Field.name)
    (tells : Tells record fields members said start result) :
    Tells record (field :: fields) members said start result := by
  refine ⟨fun name absent => ?_, fun room seen fresh => ?_, fun all agrees => ?_⟩
  · exact tells.unsaid name fun later => absent (List.mem_cons_of_mem _ later)
  · exact tells.collect room seen fun other member => fresh other (List.mem_cons_of_mem _ member)
  · have missing : all.lookup field.name = none := by
      rw [agrees field List.mem_cons_self, tells.unsaid field.name new]
    rw [Record.assemble, missing]
    simp only [spared, Bool.false_eq_true, ↓reduceIte]
    exact tells.assemble all fun other member => agrees other (List.mem_cons_of_mem _ member)

theorem fill {value : Value} {change : ρ → ρ} (reads : Reads field.decode value change)
    (known : record.fields.find? (·.name = field.name) = some field)
    (new : field.name ∉ fields.map Field.name)
    (tells : Tells record fields members said (change start) result) :
    Tells record (field :: fields) ((field.name, value) :: members)
      ((field.name, change) :: said) start result := by
  have different (other : Field ρ) (member : other ∈ fields) : other.name ≠ field.name :=
    fun same => new (same ▸ List.mem_map_of_mem member)
  refine ⟨fun name absent => ?_, fun room seen fresh => ?_, fun all agrees => ?_⟩
  · rw [List.map_cons, List.mem_cons, not_or] at absent
    rw [lookup_cons_eq_ite, if_neg absent.1, tells.unsaid name absent.2]
  · -- The later fields have other names, so they are still fresh after this one was seen.
    have unseen : seen.lookup field.name = none := fresh field List.mem_cons_self
    have next := tells.collect room (seen ++ [(field.name, change)]) fun other member => by
      rw [List.lookup_append, fresh other (List.mem_cons_of_mem _ member), lookup_cons_eq_ite,
        if_neg (different other member)]
      rfl
    rw [List.append_assoc] at next
    rw [Value.memberTrees, Value.memberDepth, collect_of_known known unseen, reads.decode_tree]
    exact within_bind next
  · have told : all.lookup field.name = some change := by
      rw [agrees field List.mem_cons_self, lookup_cons_eq_ite, if_pos rfl]
    rw [Record.assemble, told]
    refine tells.assemble all fun other member => ?_
    rw [agrees other (List.mem_cons_of_mem _ member), lookup_cons_eq_ite,
      if_neg (different other member)]

end Tells

theorem find?_name {fields : List (Field ρ)} (once : (fields.map Field.name).Nodup)
    {field : Field ρ} (member : field ∈ fields) :
    fields.find? (·.name = field.name) = some field := by
  induction fields with
  | nil => exact absurd member List.not_mem_nil
  | cons first fields ih =>
      obtain ⟨new, once⟩ := List.nodup_cons.1 once
      rcases List.mem_cons.1 member with rfl | later
      · simp
      · have other : first.name ≠ field.name := fun same =>
          new (same ▸ List.mem_map_of_mem later)
        rw [List.find?_cons_of_neg (by simpa using other), ih once later]

theorem Fills.exists_tells {record : Record ρ} {fields : List (Field ρ)}
    {members : List (String × Value)} {start result : ρ}
    (fills : Fills fields members start result) (once : (fields.map Field.name).Nodup)
    (known : ∀ field ∈ fields, record.fields.find? (·.name = field.name) = some field) :
    ∃ said, Tells record fields members said start result := by
  induction fills with
  | done start => exact ⟨[], .done record start⟩
  | skip spared rest ih =>
      obtain ⟨new, once⟩ := List.nodup_cons.1 once
      obtain ⟨said, tells⟩ := ih once fun other mem => known other (List.mem_cons_of_mem _ mem)
      exact ⟨said, tells.skip spared new⟩
  | fill reads rest ih =>
      obtain ⟨new, once⟩ := List.nodup_cons.1 once
      obtain ⟨said, tells⟩ := ih once fun other mem => known other (List.mem_cons_of_mem _ mem)
      exact ⟨_, tells.fill reads (known _ List.mem_cons_self) new⟩

theorem reads_record {record : Record ρ} {members : List (String × Value)} {result : ρ}
    (once : (record.fields.map Field.name).Nodup)
    (fills : Fills record.fields members record.blank result) :
    Reads record.decode (.object members) result := by
  obtain ⟨said, tells⟩ := fills.exists_tells once fun field => find?_name once
  refine ⟨fills.exact_object once, fun room => ?_⟩
  have collected := tells.collect (room - 1) [] fun _ _ => rfl
  rw [List.nil_append] at collected
  have assembled := tells.assemble said fun _ _ => rfl
  rw [Value.tree, Record.decode, collected, Value.depth]
  exact within_succ (within_bind_ok assembled)

end LintAdapter.Json.Decoder
