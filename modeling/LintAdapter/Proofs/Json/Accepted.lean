import LintAdapter.Json.Decoder
import LintAdapter.Proofs.Json.Spelled
import LintAdapter.Proofs.LastValue
import Mathlib.Data.List.ReduceOption

namespace LintAdapter.Json

variable {α β ρ : Type}

theorem bind_eq_ok_iff {result : Except Fault α} {next : α → Except Fault β} {b : β} :
    result >>= next = .ok b ↔ ∃ a, result = .ok a ∧ next a = .ok b := by
  cases result <;> simp [bind, Except.bind]

theorem check_eq_ok_iff {check : Except Fault Unit} {next : Unit → Except Fault β} {b : β} :
    check >>= next = .ok b ↔ check = .ok () ∧ next () = .ok b := by
  cases check <;> simp [bind, Except.bind]

theorem map_eq_ok_iff {f : α → β} {result : Except Fault α} {b : β} :
    f <$> result = .ok b ↔ ∃ a, result = .ok a ∧ f a = b := by
  cases result <;> simp [Functor.map, Except.map]

namespace Tree

mutual

theorem skip_eq_ok_iff (tree : Tree) : tree.skip = .ok () ↔ tree.Whole := by
  match tree with
  | .null => exact iff_of_true rfl .null
  | .bool value => exact iff_of_true rfl (.bool value)
  | .numeral value => exact iff_of_true rfl (.numeral value)
  | .string pieces => exact iff_of_true rfl (.string pieces)
  | .list items stop =>
      rw [whole_list_iff, ← skipItems_eq_ok_iff items]
      cases stop <;> simp [skip, check_eq_ok_iff, pure, Except.pure]
  | .object members stop =>
      rw [whole_object_iff, ← skipMembers_eq_ok_iff members]
      cases stop <;> simp [skip, check_eq_ok_iff, pure, Except.pure]
  | .broken why => exact iff_of_false nofun (not_whole_broken why)

theorem skipItems_eq_ok_iff (items : List Tree) :
    skipItems items = .ok () ↔ ∀ item ∈ items, item.Whole := by
  match items with
  | [] => exact iff_of_true rfl (List.forall_mem_nil _)
  | item :: rest =>
      rw [skipItems, check_eq_ok_iff, List.forall_mem_cons, skip_eq_ok_iff item,
        skipItems_eq_ok_iff rest]

theorem skipMembers_eq_ok_iff (members : List (List Piece × Tree)) :
    skipMembers members = .ok () ↔ ∀ member ∈ members, member.2.Whole := by
  match members with
  | [] => exact iff_of_true rfl (List.forall_mem_nil _)
  | (name, value) :: rest =>
      rw [skipMembers, check_eq_ok_iff, List.forall_mem_cons, skip_eq_ok_iff value,
        skipMembers_eq_ok_iff rest]

end

end Tree

namespace Decoder

theorem closedList_eq_ok_iff (stop : Option ListStop) : closedList stop = .ok () ↔ stop = none := by
  cases stop <;> simp [closedList]

theorem closedObject_eq_ok_iff (stop : Option ObjectStop) :
    closedObject stop = .ok () ↔ stop = none := by
  cases stop <;> simp [closedObject]

theorem noSurplus_eq_ok_iff (surplus : List Tree) (stop : Option ListStop) :
    noSurplus surplus stop = .ok () ↔ surplus = [] ∧ stop = none := by
  cases surplus <;> cases stop <;> simp [noSurplus]

theorem optional_of_ne_null (decode : Decoder α) (room : Nat) {tree : Tree} (some : tree ≠ .null) :
    optional decode room tree = .some <$> decode room tree := by
  cases tree <;> first | rfl | exact absurd rfl some

theorem items_eq_ok_iff (decode : Tree → Except Fault α) (trees : List Tree) (as : List α) :
    items decode trees = .ok as ↔ List.Forall₂ (fun tree a => decode tree = .ok a) trees as := by
  induction trees generalizing as with
  | nil => simp [items, eq_comm]
  | cons tree trees ih =>
      simp only [items, bind_eq_ok_iff, List.forall₂_cons_left_iff, ih, pure, Except.pure,
        Except.ok.injEq]
      refine exists_congr fun a => ⟨?_, ?_⟩
      · rintro ⟨read, rest, others, same⟩
        exact ⟨rest, read, others, same.symm⟩
      · rintro ⟨rest, read, others, same⟩
        exact ⟨read, rest, others, same.symm⟩

theorem list_eq_ok_iff (decode : Decoder α) (room : Nat) (tree : Tree) (as : List α) :
    list decode room tree = .ok as ↔ room ≠ 0 ∧ ∃ trees, tree = .list trees none ∧
      List.Forall₂ (fun tree a => decode (room - 1) tree = .ok a) trees as := by
  cases tree with
  | list trees stop =>
      rw [list]
      split_ifs with full
      · simp [full]
      · rw [bind_eq_ok_iff]
        simp only [check_eq_ok_iff, closedList_eq_ok_iff, items_eq_ok_iff]
        simp [full, pure, Except.pure, and_comm]
  | _ => simp [list]

theorem exists_list_of_pair {decode : Decoder α} {room : Nat} {tree : Tree} {both : α × α}
    (read : pair decode room tree = .ok both) : ∃ first second, tree = .list [first, second] none ∧
      decode (room - 1) first = .ok both.1 ∧ decode (room - 1) second = .ok both.2 := by
  cases tree with
  | list trees stop =>
      dsimp only [pair] at read
      split_ifs at read with full
      split at read
      · obtain ⟨left, readLeft, read⟩ := bind_eq_ok_iff.1 read
        obtain ⟨right, readRight, read⟩ := bind_eq_ok_iff.1 read
        obtain ⟨ends, read⟩ := check_eq_ok_iff.1 read
        obtain ⟨rfl, rfl⟩ := (noSurplus_eq_ok_iff _ _).1 ends
        cases read
        exact ⟨_, _, rfl, readLeft, readRight⟩
      · simp [bind_eq_ok_iff] at read
  | _ => cases read

namespace Record

variable {record : Record ρ} {room : Nat}

inductive Says (record : Record ρ) (room : Nat) :
    List Piece × Tree → Option (String × (ρ → ρ)) → Prop
  | unknown {pieces : List Piece} {name : String} {tree : Tree}
      (decoded : decodeString pieces = .ok name)
      (unknown : record.fields.find? (·.name = name) = none) (whole : tree.Whole) :
      Says record room (pieces, tree) none
  | field {pieces : List Piece} {name : String} {tree : Tree} {field : Field ρ} {change : ρ → ρ}
      (decoded : decodeString pieces = .ok name)
      (known : record.fields.find? (·.name = name) = some field)
      (read : field.decode room tree = .ok change) :
      Says record room (pieces, tree) (some (name, change))

theorem collect_cons_eq_ok_iff (seen : List (String × (ρ → ρ))) (member : List Piece × Tree)
    (rest : List (List Piece × Tree)) (all : List (String × (ρ → ρ))) :
    record.collect room seen (member :: rest) = .ok all ↔
      ∃ said, Says record room member said ∧ (∀ told ∈ said, told.1 ∉ seen.map Prod.fst) ∧
        record.collect room (seen ++ said.toList) rest = .ok all := by
  obtain ⟨pieces, tree⟩ := member
  rw [collect, bind_eq_ok_iff]
  constructor
  · rintro ⟨name, decoded, collected⟩
    cases known : record.fields.find? (·.name = name) with
    | none =>
        rw [known] at collected
        obtain ⟨skipped, collected⟩ := check_eq_ok_iff.1 collected
        refine ⟨none, .unknown decoded known ((Tree.skip_eq_ok_iff tree).1 skipped), by simp, ?_⟩
        rwa [Option.toList_none, List.append_nil]
    | some field =>
        simp only [known] at collected
        cases unseen : seen.lookup name with
        | some change => simp [unseen] at collected
        | none =>
            simp only [unseen, Option.isSome_none, Bool.false_eq_true, ↓reduceIte] at collected
            obtain ⟨change, read, collected⟩ := bind_eq_ok_iff.1 collected
            refine ⟨some (name, change), .field decoded known read, ?_, collected⟩
            rintro _ ⟨⟩
            exact (lookup_eq_none_iff seen name).1 unseen
  · rintro ⟨said, own, unseen, collected⟩
    cases own with
    | @unknown _ name _ decoded unknown whole =>
        refine ⟨name, decoded, ?_⟩
        rw [unknown]
        refine check_eq_ok_iff.2 ⟨(Tree.skip_eq_ok_iff tree).2 whole, ?_⟩
        rwa [Option.toList_none, List.append_nil] at collected
    | @field _ name _ _ change decoded known read =>
        refine ⟨name, decoded, ?_⟩
        have unseen := (lookup_eq_none_iff seen name).2 (unseen (name, change) rfl)
        simp only [known, unseen, Option.isSome_none, Bool.false_eq_true, ↓reduceIte]
        exact bind_eq_ok_iff.2 ⟨change, read, collected⟩

theorem nodup_map_fst_append_toList {seen : List (String × α)}
    (once : (seen.map Prod.fst).Nodup) (said : Option (String × α)) :
    ((seen ++ said.toList).map Prod.fst).Nodup ↔ ∀ told ∈ said, told.1 ∉ seen.map Prod.fst := by
  cases said with
  | none => simpa using once
  | some told =>
      rw [Option.toList_some, List.map_append, List.map_singleton, List.nodup_append_comm,
        List.singleton_append, List.nodup_cons]
      simp [once]

theorem collect_eq_ok_iff {seen : List (String × (ρ → ρ))} (once : (seen.map Prod.fst).Nodup)
    (members : List (List Piece × Tree)) (all : List (String × (ρ → ρ))) :
    record.collect room seen members = .ok all ↔
      ∃ said, List.Forall₂ (Says record room) members said ∧ seen ++ said.reduceOption = all ∧
        (all.map Prod.fst).Nodup := by
  -- What was seen grows at its end, so the induction is over any start without repeated names.
  induction members generalizing seen with
  | nil =>
      rw [collect, Except.ok.injEq]
      simp only [List.forall₂_nil_left_iff, exists_eq_left, List.reduceOption_nil, List.append_nil]
      exact ⟨fun same => ⟨same, same ▸ once⟩, And.left⟩
  | cons member rest ih =>
      have reduced (said : Option (String × (ρ → ρ))) (others : List (Option (String × (ρ → ρ)))) :
          seen ++ (said :: others).reduceOption = seen ++ said.toList ++ others.reduceOption := by
        cases said <;> simp [List.reduceOption_cons_of_some, List.reduceOption_cons_of_none]
      rw [collect_cons_eq_ok_iff]
      simp only [List.forall₂_cons_left_iff]
      constructor
      · rintro ⟨said, own, unseen, collected⟩
        obtain ⟨others, each, same, distinct⟩ :=
          (ih ((nodup_map_fst_append_toList once said).2 unseen)).1 collected
        exact ⟨said :: others, ⟨said, others, own, each, rfl⟩, (reduced said others).trans same,
          distinct⟩
      · rintro ⟨_, ⟨said, others, own, each, rfl⟩, same, distinct⟩
        rw [reduced] at same
        have kept : ((seen ++ said.toList).map Prod.fst).Nodup := by
          rw [← same, List.map_append] at distinct
          exact distinct.of_append_left
        exact ⟨said, own, (nodup_map_fst_append_toList once said).1 kept,
          (ih kept).2 ⟨others, each, same, distinct⟩⟩

theorem decode_object_eq_ok_iff (members : List (List Piece × Tree)) (stop : Option ObjectStop)
    (result : ρ) :
    record.decode room (.object members stop) = .ok result ↔
      room ≠ 0 ∧ stop = none ∧ ∃ said, List.Forall₂ (Says record (room - 1)) members said ∧
        (said.reduceOption.map Prod.fst).Nodup ∧
          assemble said.reduceOption record.fields record.blank = .ok result := by
  rw [decode]
  split_ifs with full
  · simp [full]
  · have once : (([] : List (String × (ρ → ρ))).map Prod.fst).Nodup := List.nodup_nil
    rw [bind_eq_ok_iff]
    simp only [check_eq_ok_iff, closedObject_eq_ok_iff, collect_eq_ok_iff once, List.nil_append]
    constructor
    · rintro ⟨_, ⟨said, each, rfl, distinct⟩, closed, assembled⟩
      exact ⟨full, closed, said, each, distinct, assembled⟩
    · rintro ⟨-, closed, said, each, distinct, assembled⟩
      exact ⟨_, ⟨said, each, rfl, distinct⟩, closed, assembled⟩

inductive Gives (room : Nat) : List (Field ρ) → List Tree → ρ → ρ → Prop
  | done (result : ρ) : Gives room [] [] result result
  | spare {field : Field ρ} {fields : List (Field ρ)} {start result : ρ}
      (spared : field.needed = false) (rest : Gives room fields [] start result) :
      Gives room (field :: fields) [] start result
  | item {field : Field ρ} {fields : List (Field ρ)} {tree : Tree} {trees : List Tree}
      {start result : ρ} {change : ρ → ρ} (read : field.decode room tree = .ok change)
      (rest : Gives room fields trees (change start) result) :
      Gives room (field :: fields) (tree :: trees) start result

theorem fromItems_eq_ok_iff (position : Nat) (fields : List (Field ρ)) (trees : List Tree)
    (stop : Option ListStop) (start result : ρ) :
    record.fromItems room position fields trees stop start = .ok result ↔
      stop = none ∧ Gives room fields trees start result := by
  induction fields generalizing position trees start with
  | nil =>
      rw [fromItems, check_eq_ok_iff, noSurplus_eq_ok_iff]
      constructor
      · rintro ⟨⟨rfl, closed⟩, same⟩
        cases same
        exact ⟨closed, .done _⟩
      · rintro ⟨closed, gives⟩
        cases gives
        exact ⟨⟨rfl, closed⟩, rfl⟩
  | cons field fields ih =>
      cases trees with
      | nil =>
          rw [fromItems, check_eq_ok_iff, closedList_eq_ok_iff]
          constructor
          · rintro ⟨closed, rest⟩
            split_ifs at rest with needed
            exact ⟨closed, .spare (by simpa using needed) ((ih _ _ _).1 rest).2⟩
          · rintro ⟨closed, gives⟩
            cases gives with
            | spare spared rest =>
                rw [spared]
                exact ⟨closed, (ih _ _ _).2 ⟨closed, rest⟩⟩
      | cons tree trees =>
          rw [fromItems, bind_eq_ok_iff]
          constructor
          · rintro ⟨change, read, rest⟩
            obtain ⟨closed, gives⟩ := (ih _ _ _).1 rest
            exact ⟨closed, .item read gives⟩
          · rintro ⟨closed, gives⟩
            cases gives with
            | item read rest => exact ⟨_, read, (ih _ _ _).2 ⟨closed, rest⟩⟩

theorem decode_list_eq_ok_iff (trees : List Tree) (stop : Option ListStop) (result : ρ) :
    record.decode room (.list trees stop) = .ok result ↔
      room ≠ 0 ∧ stop = none ∧ Gives (room - 1) record.fields trees record.blank result := by
  rw [decode]
  split_ifs with full
  · simp [full]
  · rw [fromItems_eq_ok_iff]
    simp [full]

end Record

/-- The decoder accepts whole trees only. -/
def Strict (decode : Decoder α) : Prop :=
  ∀ room tree a, decode room tree = .ok a → tree.Whole

theorem strict_text : Strict text := by
  intro room tree s read
  cases tree with
  | string pieces => exact .string pieces
  | _ => cases read

theorem strict_flag : Strict flag := by
  intro room tree b read
  cases tree with
  | bool value => exact .bool value
  | _ => cases read

theorem strict_count : Strict count := by
  intro room tree n read
  cases tree with
  | numeral written => exact .numeral written
  | _ => cases read

variable {decode : Decoder α}

theorem Strict.map (strict : Strict decode) (f : α → β) :
    Strict fun room tree => f <$> decode room tree := by
  intro room tree b read
  obtain ⟨a, read, -⟩ := map_eq_ok_iff.1 read
  exact strict room tree a read

theorem Strict.optional (strict : Strict decode) : Strict (optional decode) := by
  intro room tree option read
  by_cases null : tree = .null
  · exact null ▸ .null
  · rw [optional_of_ne_null decode room null] at read
    exact strict.map some room tree option read

theorem Strict.list (strict : Strict decode) : Strict (list decode) := by
  intro room tree as read
  obtain ⟨-, trees, rfl, each⟩ := (list_eq_ok_iff decode room tree as).1 read
  have wholes := each.imp fun tree a read => And.intro (strict (room - 1) tree a read) read
  exact .list ((List.forall₂_and_left trees as).1 wholes).1

theorem Strict.pair (strict : Strict decode) : Strict (pair decode) := by
  intro room tree both read
  obtain ⟨first, second, rfl, left, right⟩ := exists_list_of_pair read
  refine .list fun item member => ?_
  rcases List.mem_pair.1 member with rfl | rfl
  · exact strict _ _ _ left
  · exact strict _ _ _ right

namespace Record

variable {record : Record ρ} {room : Nat}

theorem Says.whole (strict : ∀ field ∈ record.fields, Strict field.decode)
    {member : List Piece × Tree} {said : Option (String × (ρ → ρ))}
    (own : Says record room member said) : member.2.Whole := by
  cases own with
  | unknown _ _ whole => exact whole
  | field _ known read => exact strict _ (List.mem_of_find?_eq_some known) _ _ _ read

theorem Gives.whole {fields : List (Field ρ)} (strict : ∀ field ∈ fields, Strict field.decode)
    {trees : List Tree} {start result : ρ} (gives : Gives room fields trees start result) :
    ∀ tree ∈ trees, tree.Whole := by
  induction gives with
  | done => exact List.forall_mem_nil _
  | spare => exact List.forall_mem_nil _
  | item read rest ih =>
      rw [List.forall_mem_cons] at strict
      exact List.forall_mem_cons.2 ⟨strict.1 _ _ _ read, ih strict.2⟩

theorem strict_decode (strict : ∀ field ∈ record.fields, Strict field.decode) :
    Strict record.decode := by
  intro room tree result read
  cases tree with
  | object members stop =>
      obtain ⟨-, rfl, said, each, -⟩ := (decode_object_eq_ok_iff members stop result).1 read
      have wholes := each.imp fun member told own => And.intro (own.whole strict) own
      exact .object ((List.forall₂_and_left members said).1 wholes).1
  | list trees stop =>
      obtain ⟨-, rfl, gives⟩ := (decode_list_eq_ok_iff trees stop result).1 read
      exact .list (gives.whole strict)
  | _ => cases read

end Record

end Decoder

end LintAdapter.Json
