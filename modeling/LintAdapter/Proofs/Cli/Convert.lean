import LintAdapter.Proofs.Cli.Run
import LintAdapter.Proofs.Diagnostics
import LintAdapter.Proofs.Finding
import LintAdapter.Proofs.OsString

namespace LintAdapter

open Json (Value Decoder Token Tree IsPrinted)

inductive Batch.ReadFrom (text : String) : List Batch → Prop
  | blank (allBlank : ∀ c ∈ text.toList, Text.isBlank c) : ReadFrom text []
  | document (batches : List Batch) (accepted : Batch.allOfText text = .ok batches) :
      ReadFrom text batches

theorem Json.Token.scan_of_isBlank {c : Char} (isBlank : Text.isBlank c) (rest : List Char) :
    scan c rest = (.stray, none) := by
  have ne (other : Char) (different : Text.isBlank other = false) : c ≠ other := by
    rintro rfl
    rw [isBlank] at different
    cases different
  -- No blank character stands where the digits do, nor is one a sign of the grammar.
  have noDigit : ¬ isDigit c := by
    intro digit
    have between : 0x30 ≤ c.toNat ∧ c.toNat ≤ 0x39 := by
      simp only [isDigit, Bool.and_eq_true, decide_eq_true_eq] at digit
      exact digit
    simp only [Text.isBlank, Bool.or_eq_true, Bool.and_eq_true, decide_eq_true_eq, beq_iff_eq]
      at isBlank
    omega
  rw [scan, if_neg (ne '[' rfl), if_neg (ne ']' rfl), if_neg (ne '\x7b' rfl),
    if_neg (ne '\x7d' rfl), if_neg (ne ',' rfl), if_neg (ne ':' rfl), if_neg (ne '"' rfl),
    if_neg (ne 'n' rfl), if_neg (ne 't' rfl), if_neg (ne 'f' rfl), if_neg (ne '-' rfl),
    if_neg noDigit]

theorem Json.Token.ofText_of_blank {text : List Char} (blank : ∀ c ∈ text, Text.isBlank c) :
    ofText text = [] ∨ ofText text = [.stray] := by
  induction text with
  | nil => exact .inl (by rw [ofText])
  | cons c rest ih =>
      rw [List.forall_mem_cons] at blank
      rw [ofText]
      split_ifs with space
      · exact ih blank.2
      · right
        split
        · rename_i scanned
          rw [scan_of_isBlank blank.1] at scanned
          cases scanned
        · rename_i scanned
          rw [scan_of_isBlank blank.1] at scanned
          cases scanned
          rfl

theorem Batch.not_accepted_of_blank {text : String} (blank : ∀ c ∈ text.toList, Text.isBlank c)
    (batches : List Batch) : allOfText text ≠ .ok batches := by
  intro accepted
  obtain ⟨tree, read, decoded⟩ := (Decoder.document_eq_ok_iff _ _ _).1 accepted
  rw [Tree.ofText] at read
  rcases Token.ofText_of_blank blank with tokens | tokens
  · rw [tokens] at read
    cases read
    cases decoded
  · rw [tokens] at read
    cases read

def Batch.ofReport? (text : String) : Option (List Batch) :=
  if Text.blank text then some [] else (allOfText text).toOption

theorem Batch.ofReport?_eq_some_iff (text : String) (batches : List Batch) :
    ofReport? text = some batches ↔ ReadFrom text batches := by
  have allBlank : Text.blank text ↔ ∀ c ∈ text.toList, Text.isBlank c := List.all_eq_true
  rw [ofReport?]
  constructor
  · intro read
    split_ifs at read with blank
    · cases read
      exact .blank (allBlank.1 blank)
    · exact .document batches ((Cli.toOption_eq_some_iff _ _).1 read)
  · rintro (blank | ⟨_, accepted⟩)
    · rw [if_pos (allBlank.2 blank)]
    · have notBlank : ¬ Text.blank text :=
        fun blank => not_accepted_of_blank (allBlank.1 blank) batches accepted
      rw [if_neg notBlank, accepted]
      rfl

namespace Cli

def jsonLines (findings : List Finding) : String := String.join (findings.map jsonLine)

theorem toList_jsonLines (findings : List Finding) :
    (jsonLines findings).toList =
      (findings.map fun finding => finding.toValue.compact.toList).flatMap (· ++ ['\n']) := by
  rw [jsonLines, String.toList_join, List.flatMap_map, List.flatMap_map]
  simp [jsonLine, line]

theorem splitOn_flatMap_concat {α : Type} [BEq α] [LawfulBEq α] {stop : α} {texts : List (List α)}
    (absent : ∀ text ∈ texts, stop ∉ text) :
    (texts.flatMap (· ++ [stop])).splitOn stop = texts ++ [[]] := by
  induction texts with
  | nil => simp
  | cons text rest ih =>
      rw [List.forall_mem_cons] at absent
      rw [List.flatMap_cons, List.append_assoc, List.singleton_append,
        List.splitOn_append_cons_self, List.splitOn_eq_singleton absent.1, ih absent.2]
      rfl

/-- The findings are printed one a line, and each line is read back as its finding. -/
structure PrintsLines (findings : List Finding) (stdout : String) (lines : List String) : Prop where
  split : stdout.toList.splitOn '\n' = lines.map String.toList ++ [[]]
  printed : ∀ line ∈ lines, IsPrinted line.toList
  readBack : List.Forall₂ (fun line finding => Decoder.document Decoder.finding line = .ok finding)
    lines findings

theorem document_finding_compact (finding : Finding) :
    Decoder.document Decoder.finding finding.toValue.compact = .ok finding := by
  rw [Decoder.document_compact finding.reads_toValue, finding.depth_toValue]
  rfl

theorem jsonLines_printsLines (findings : List Finding) :
    PrintsLines findings (jsonLines findings) (findings.map (·.toValue.compact)) := by
  have printed (finding : Finding) : IsPrinted finding.toValue.compact.toList := by
    rw [Value.compact, String.toList_ofList]
    exact finding.exact_toValue.isPrinted_chars
  refine ⟨?_, ?_, ?_⟩
  · rw [toList_jsonLines, splitOn_flatMap_concat, List.map_map]
    · rfl
    · intro text member lineFeed
      obtain ⟨finding, -, rfl⟩ := List.mem_map.1 member
      exact absurd (printed finding '\n' lineFeed) (by decide)
  · intro line member
    obtain ⟨finding, -, rfl⟩ := List.mem_map.1 member
    exact printed finding
  · rw [List.forall₂_map_left_iff, List.forall₂_same]
    exact fun finding _ => document_finding_compact finding

inductive Receives (world : World) : Option OsString → String → Prop
  | file (path : OsString) (text : String) (read : world.files.read path = .ok text) :
      Receives world (some path) text
  | standardInput (text : String) (given : world.stdin = text.toUTF8) : Receives world none text

theorem gives_readReport {world : World} {input : Option OsString} {text : String}
    (receives : Receives world input text) :
    Run.Gives (readReport world.files world.stdin input) (some text) := by
  cases receives with
  | file path text read => exact Run.gives_need_of_ok _ _ read
  | standardInput text given =>
      apply Run.gives_need_of_ok
      rw [decodeInput, given, OsString.fromUTF8?_toUTF8]

theorem gives_convertReport (settings : Settings) (text : String) :
    Run.Gives (convertReport settings text) ((Batch.ofReport? text).map settings.convert) := by
  rw [convertReport, Batch.ofReport?]
  split_ifs with blank
  · exact (Run.gives_pure []).after_tell _
  · rw [Option.map_eq_bind]
    apply Run.gives_bind (Run.gives_need _ _ _)
    intro batches _
    exact ((Run.gives_pure _).after_tell _).after_tell _

def printedFindings (findings : List Finding) : Format → String
  | .json => jsonLines findings
  | .text => String.join (findings.map textLines) ++ summary findings

theorem prints_printFindings (findings : List Finding) (format : Format) :
    Run.Prints (printFindings findings format) (some (printedFindings findings format)) := by
  cases format with
  | json => exact Run.prints_forM findings jsonLine
  | text => exact (Run.prints_forM findings textLines).bind (Run.ends_print (summary findings))

theorem prints_run_convert {world : World} {input : Option OsString} {text : String}
    (receives : Receives world input text) (format : Format) (settings : Settings) :
    Run.Prints ((Command.convert input format).run world settings)
      ((Batch.ofReport? text).map fun batches =>
        printedFindings (settings.convert batches) format) := by
  have printed : Run.Prints (convertReport settings text >>= (printFindings · format))
      (((Batch.ofReport? text).map settings.convert).bind
        fun findings => some (printedFindings findings format)) :=
    (gives_convertReport settings text).prints fun findings _ =>
      prints_printFindings findings format
  rw [Option.bind_map] at printed
  rw [Option.map_eq_bind]
  exact (gives_readReport receives).goesOn printed

/-- A report that is blank or a document is converted as a whole, into one line a finding; any other
report prints nothing. -/
theorem convert_is_all_or_nothing (world : World) (arguments : List OsString)
    (invocation : Invocation) (input : Option OsString) (settings : Settings) (text : String)
    (reads : read arguments = .ok invocation)
    (converts : invocation.command = .convert input .json)
    (loads : effectiveSettings world (settingsSource world invocation) = .ok settings)
    (receives : Receives world input text) :
    ((program world arguments).exitCode = 0 ↔
      (∀ c ∈ text.toList, Text.isBlank c) ∨ ∃ batches, Batch.allOfText text = .ok batches) ∧
    ((program world arguments).exitCode ≠ 0 → (program world arguments).stdout = "") ∧
    ∀ batches, Batch.ReadFrom text batches → ∃ lines,
      PrintsLines (settings.convert batches) (program world arguments).stdout lines := by
  have prints : (program world arguments).Prints ((Batch.ofReport? text).map fun batches =>
      jsonLines (settings.convert batches)) := by
    have called := program_prints reads fun given => by
      rw [converts]
      exact prints_run_convert receives .json given
    rw [loads] at called
    exact called
  refine ⟨?_, prints.silent, ?_⟩
  · rw [prints.succeeds_iff]
    simp only [Option.map_eq_some_iff, Batch.ofReport?_eq_some_iff]
    constructor
    · rintro ⟨-, batches, blank | ⟨_, accepted⟩, -⟩
      · exact .inl blank
      · exact .inr ⟨batches, accepted⟩
    · rintro (blank | ⟨batches, accepted⟩)
      · exact ⟨_, [], .blank blank, rfl⟩
      · exact ⟨_, batches, .document batches accepted, rfl⟩
  · intro batches readFrom
    rw [prints.stdout, (Batch.ofReport?_eq_some_iff text batches).2 readFrom]
    exact ⟨_, jsonLines_printsLines _⟩

def World.receiving (text : String) : World where
  files := .empty
  environment := []
  stdin := text.toUTF8

def spread : Batch := ⟨"a\nb.js", [{ Message.blank with text := "\"\x01\r\n" }], 0, none⟩

theorem convert_prints_one_line : ∃ text line,
    read ["convert"] = .ok ⟨false, none, .convert none .json⟩ ∧
    Batch.allOfText text = .ok [spread] ∧
    (call (.receiving text) ["convert"]).exitCode = 0 ∧
    PrintsLines [.issue ⟨"a\nb.js", "\"\x01\r\n", "", 1, none⟩]
      (call (.receiving text) ["convert"]).stdout [line] := by
  have reads : read ["convert"] = .ok ⟨false, none, .convert none .json⟩ := by rfl
  have accepted : Batch.allOfText (Value.list [spread.toValue]).compact = .ok [spread] := by
    have counted : ∀ batch ∈ [spread], batch.fatalCount < 0x10000000000000000 := by decide
    have readBack := Decoder.reads_list fun batch member =>
      Batch.reads_toValue (counted batch member)
    rw [List.map_singleton] at readBack
    rw [Batch.allOfText, Decoder.document_compact readBack]
    rfl
  generalize (Value.list [spread.toValue]).compact = text at accepted
  obtain ⟨succeeds, -, printed⟩ := convert_is_all_or_nothing (.receiving text) ["convert"]
    ⟨false, none, .convert none .json⟩ none .default text reads rfl rfl (.standardInput text rfl)
  obtain ⟨lines, prints⟩ := printed [spread] (.document _ accepted)
  cases prints.readBack with
  | cons _ rest =>
      cases rest
      exact ⟨text, _, reads, accepted, succeeds.2 (.inr ⟨_, accepted⟩), prints⟩

end Cli

end LintAdapter
