import LintAdapter.Proofs.Cli.Convert
import LintAdapter.Proofs.Json.Edited

namespace LintAdapter

open Json (Tree Piece Decoder decodeString)
open Json.Tree (ListEdits RecordEdits)
open Json.Decoder (Keeps Strict)
open Json.Decoder.Record (KeepsField)

def Fix.Edits : Tree → Tree → Prop := RecordEdits [("range", Eq), ("text", Eq)]

def Alternative.Edits : Tree → Tree → Prop := RecordEdits [("desc", Eq), ("fix", Fix.Edits)]

def Message.Edits : Tree → Tree → Prop :=
  RecordEdits [
    ("ruleId", Eq), ("message", Eq), ("line", Eq), ("endLine", Eq), ("fatal", Eq),
    ("fix", Fix.Edits), ("suggestions", ListEdits Alternative.Edits)]

def Batch.Edits : Tree → Tree → Prop :=
  RecordEdits [
    ("filePath", Eq), ("messages", ListEdits Message.Edits), ("fatalErrorCount", Eq),
    ("source", Eq)]

/-- In each object that is read as a batch, message, fix or alternative, members stand in another
order and unknown ones are added. -/
def Batch.ReportEdits : Tree → Tree → Prop := ListEdits Batch.Edits

namespace Json.Decoder

theorem keeps_fix : Keeps fix Fix.Edits :=
  Record.keeps_decode (by decide) <|
    .cons ⟨rfl, keeps_eq _⟩ <| .cons ⟨rfl, keeps_eq _⟩ .nil

theorem keeps_alternative : Keeps alternative Alternative.Edits :=
  Record.keeps_decode (by decide) <|
    .cons ⟨rfl, keeps_eq _⟩ <| .cons ⟨rfl, keeps_fix.map _⟩ .nil

theorem keeps_message : Keeps message Message.Edits := by
  have fixes := keeps_fix.optional (Tree.spareNull_recordEdits _)
  have alternatives := keeps_alternative.list.optional (Tree.spareNull_listEdits _)
  exact Record.keeps_decode (by decide) <|
    .cons ⟨rfl, keeps_eq _⟩ <| .cons ⟨rfl, keeps_eq _⟩ <| .cons ⟨rfl, keeps_eq _⟩ <|
    .cons ⟨rfl, keeps_eq _⟩ <| .cons ⟨rfl, keeps_eq _⟩ <| .cons ⟨rfl, fixes.map _⟩ <|
    .cons ⟨rfl, alternatives.map _⟩ .nil

theorem keeps_batch : Keeps batch Batch.Edits :=
  Record.keeps_decode (by decide) <|
    .cons ⟨rfl, keeps_eq _⟩ <| .cons ⟨rfl, keeps_message.list.map _⟩ <|
    .cons ⟨rfl, keeps_eq _⟩ <| .cons ⟨rfl, keeps_eq _⟩ .nil

theorem strict_fix : Strict fix := by
  refine Record.strict_decode ?_
  simp only [List.forall_mem_cons]
  exact ⟨strict_count.pair.map _, strict_text.map _, List.forall_mem_nil _⟩

theorem strict_alternative : Strict alternative := by
  refine Record.strict_decode ?_
  simp only [List.forall_mem_cons]
  exact ⟨strict_text.map _, strict_fix.map _, List.forall_mem_nil _⟩

theorem strict_message : Strict message := by
  refine Record.strict_decode ?_
  simp only [List.forall_mem_cons]
  exact ⟨strict_text.optional.map _, strict_text.map _, strict_count.optional.map _,
    strict_count.optional.map _, strict_flag.map _, strict_fix.optional.map _,
    strict_alternative.list.optional.map _, List.forall_mem_nil _⟩

theorem strict_batch : Strict batch := by
  refine Record.strict_decode ?_
  simp only [List.forall_mem_cons]
  exact ⟨strict_text.map _, strict_message.list.map _, strict_count.map _,
    strict_text.optional.map _, List.forall_mem_nil _⟩

end Json.Decoder

namespace Batch

theorem allOfText_of_spells {text : String} {tree : Tree} (spelled : tree.Spells text) :
    allOfText text = Decoder.list Decoder.batch Decoder.documentRoom tree := by
  have read := ((Tree.spells_iff tree text).1 spelled).1
  rw [allOfText, Decoder.document, read]
  exact bind_pure _

theorem exists_tree_of_allOfText {text : String} {batches : List Batch}
    (read : allOfText text = .ok batches) :
    ∃ tree, (∀ other : Tree, other.Spells text ↔ other = tree) ∧
      Decoder.list Decoder.batch Decoder.documentRoom tree = .ok batches := by
  obtain ⟨tree, spelled, decoded⟩ := (Decoder.document_eq_ok_iff _ _ _).1 read
  refine ⟨tree, fun other => ?_, decoded⟩
  rw [Tree.spells_iff, spelled]
  constructor
  · rintro ⟨same, -⟩
    cases same
    rfl
  · rintro rfl
    exact ⟨rfl, Json.Decoder.strict_batch.list _ _ _ decoded⟩

theorem convertReport_congr {text other : String} {batches : List Batch}
    (read : allOfText text = .ok batches) (same : allOfText other = .ok batches)
    (settings : Settings) :
    Cli.convertReport settings other = Cli.convertReport settings text := by
  have notBlank {report : String} (accepted : allOfText report = .ok batches) :
      ¬ Text.blank report := fun blank =>
    not_accepted_of_blank (List.all_eq_true.1 blank) batches accepted
  rw [Cli.convertReport, Cli.convertReport, if_neg (notBlank same), if_neg (notBlank read), same,
    read]

/-- An accepted text spells one tree, and any text of that tree with members in another order and
with unknown ones added is read as the same batches and converted alike. -/
theorem allOfText_sees_no_edits (text : String) (batches : List Batch)
    (read : allOfText text = .ok batches) :
    ∃ tree : Tree, (∀ other : Tree, other.Spells text ↔ other = tree) ∧
      ∀ (edited : Tree) (other : String), ReportEdits tree edited → edited.Spells other →
        allOfText other = .ok batches ∧ ∀ settings,
          Cli.convertReport settings other = Cli.convertReport settings text := by
  obtain ⟨tree, only, decoded⟩ := exists_tree_of_allOfText read
  refine ⟨tree, only, fun edited other edits spelled => ?_⟩
  have same : allOfText other = .ok batches := by
    rw [allOfText_of_spells spelled]
    exact Json.Decoder.keeps_batch.list _ _ _ _ edits decoded
  exact ⟨same, convertReport_congr read same⟩

def oneFile (before after : List (List Piece × Tree)) : Tree :=
  .list [.object (before ++ ("filePath".toList.map .plain, .string ("a.js".toList.map .plain)) ::
    after) none] none

def noMessages : List Piece × Tree := ("messages".toList.map .plain, .list [] none)

def strange : List Piece × Tree :=
  (['x'].map .plain, .list [.object [([.unit 0xd800],
    .numeral ⟨false, ['1'], [], some (false, ['9', '9', '9'])⟩)] none] none)

theorem spells_path_first : (oneFile [] [noMessages]).Spells
    "[\x7b\"filePath\":\"a.js\",\"messages\":[]\x7d]" :=
  ⟨(Tree.skip_eq_ok_iff _).1 rfl, by decide +kernel⟩

theorem spells_path_last : (oneFile [noMessages, strange] []).Spells
    "[\x7b\"messages\":[],\"x\":[\x7b\"\\ud800\":1e999\x7d],\"filePath\":\"a.js\"\x7d]" :=
  ⟨(Tree.skip_eq_ok_iff _).1 rfl, by decide +kernel⟩

theorem allOfText_path_last :
    allOfText "[\x7b\"filePath\":\"a.js\",\"messages\":[]\x7d]" = .ok [ofPath "a.js"] ∧
    allOfText
        "[\x7b\"messages\":[],\"x\":[\x7b\"\\ud800\":1e999\x7d],\"filePath\":\"a.js\"\x7d]" =
      .ok [ofPath "a.js"] := by
  have read : allOfText "[\x7b\"filePath\":\"a.js\",\"messages\":[]\x7d]" =
      .ok [ofPath "a.js"] := allOfText_of_spells spells_path_first
  have unknown : Json.Tree.IsUnknown ["filePath", "messages", "fatalErrorCount", "source"]
      strange :=
    ⟨⟨"x", rfl, by decide⟩, (Tree.skip_eq_ok_iff _).1 rfl⟩
  obtain ⟨tree, only, kept⟩ := allOfText_sees_no_edits _ _ read
  obtain rfl := (only _).1 spells_path_first
  refine ⟨read, (kept _ _ (.list (.cons ?_ .nil)) spells_path_last).1⟩
  exact .object (List.forall₂_same.2 fun member _ => .same member)
    (List.forall_mem_singleton.2 unknown) (List.perm_append_singleton _ _)

def nameless : List Piece × Tree := ([.unit 0xd800], .numeral ⟨false, ['0'], [], none⟩)

theorem allOfText_refuses_nameless :
    (oneFile [] []).Spells "[\x7b\"filePath\":\"a.js\"\x7d]" ∧
    allOfText "[\x7b\"filePath\":\"a.js\"\x7d]" = .ok [ofPath "a.js"] ∧
    (oneFile [] [nameless]).Spells "[\x7b\"filePath\":\"a.js\",\"\\ud800\":0\x7d]" ∧
    nameless.2.Whole ∧ (∀ name, decodeString nameless.1 ≠ .ok name) ∧
    ∀ batches, allOfText "[\x7b\"filePath\":\"a.js\",\"\\ud800\":0\x7d]" ≠ .ok batches := by
  have plain : (oneFile [] []).Spells "[\x7b\"filePath\":\"a.js\"\x7d]" :=
    ⟨(Tree.skip_eq_ok_iff _).1 rfl, by decide +kernel⟩
  have spelled : (oneFile [] [nameless]).Spells
      "[\x7b\"filePath\":\"a.js\",\"\\ud800\":0\x7d]" :=
    ⟨(Tree.skip_eq_ok_iff _).1 rfl, by decide +kernel⟩
  refine ⟨plain, allOfText_of_spells plain, spelled, .numeral _, nofun, fun batches read => ?_⟩
  rw [allOfText_of_spells spelled] at read
  cases read

end Batch

end LintAdapter
