import LintAdapter.Proofs.Catalog
import LintAdapter.Proofs.Cli.Run
import LintAdapter.Proofs.Json.Reading
import LintAdapter.Proofs.OsString

namespace LintAdapter

open Json (Value Decoder)

variable {files : Files.Tree} {path : OsString}

theorem Settings.load_eq_ok_iff (loaded : Settings) :
    load files path = .ok loaded ↔
      ∃ text settings, files.read path = .ok text ∧ ofText text = .ok settings ∧
        settings.rebase path = loaded := by
  rw [load]
  cases files.read path with
  | error failure => simp
  | ok text => cases read : ofText text <;> simp [read]

theorem Request.load_eq_ok_iff (request : Request) :
    load files path = .ok request ↔
      ∃ text, files.read path = .ok text ∧ ofText text = .ok request := by
  rw [load]
  cases files.read path with
  | error failure => simp
  | ok text => cases read : ofText text <;> simp [read]

theorem Catalog.load_eq_ok_iff (entries : List Entry) :
    load files path = .ok entries ↔
      ∃ text, files.read path = .ok text ∧ ofText text = .ok entries := by
  rw [load]
  cases files.read path with
  | error failure => simp
  | ok text => cases read : ofText text <;> simp [read]

theorem Files.Tree.read_of_look_text {text : String}
    (found : files.look path = .ok (.file text.toUTF8)) : files.read path = .ok text := by
  rw [read, found]
  dsimp only
  rw [OsString.fromUTF8?_toUTF8]

theorem Catalog.ofText_compact {members : List (String × Value)}
    (exact : (Value.object members).Exact)
    (shallow : (Value.object members).depth ≤ Decoder.documentRoom) :
    ofText (Value.object members).compact = ofMembers members := by
  have merged : Json.Members.merge (Value.mergedMembers members) = members :=
    Value.object.inj (Value.merged_of_exact exact)
  have read : Decoder.document Decoder.members (Value.object members).compact = .ok members := by
    refine (Decoder.document_members_eq_ok_iff _ _).2 ⟨members, ?_, merged.symm⟩
    exact (Decoder.document_compact (Decoder.reads_rawValue exact)).trans (if_pos shallow)
  rw [ofText, read]

namespace Cli

variable {world : World} {settings : Settings} {request catalog : Option OsString}
  {asked : Request} {registry : Registry}

inductive SettingsFrom (world : World) : Option OsString → Settings → Prop
  | default : SettingsFrom world none (Settings.default.overlay world.environment)
  | file (path : OsString) (text : String) (settings : Settings)
      (read : world.files.read path = .ok text) (accepted : Settings.ofText text = .ok settings) :
      SettingsFrom world (some path) ((settings.rebase path).overlay world.environment)

inductive RequestFrom (files : Files.Tree) : Option OsString → Request → Prop
  | empty : RequestFrom files none .empty
  | file (path : OsString) (text : String) (request : Request) (read : files.read path = .ok text)
      (accepted : Request.ofText text = .ok request) : RequestFrom files (some path) request

inductive RegistryFrom (files : Files.Tree) : Option OsString → Registry → Prop
  | unavailable : RegistryFrom files none .unavailable
  | file (path : OsString) (text : String) (entries : List Catalog.Entry)
      (read : files.read path = .ok text) (accepted : Catalog.ofText text = .ok entries) :
      RegistryFrom files (some path) (.ok entries)

theorem effectiveSettings_eq_ok_iff (source : Source) :
    effectiveSettings world source = .ok settings ↔ SettingsFrom world source.path? settings := by
  rw [effectiveSettings, Source.load]
  cases source.path? with
  | none =>
      constructor
      · rintro ⟨⟩
        exact .default
      · rintro ⟨⟩
        rfl
  | some path =>
      dsimp only
      constructor
      · intro loaded
        cases given : Settings.load world.files path with
        | error refusal =>
            rw [given] at loaded
            cases loaded
        | ok own =>
            rw [given] at loaded
            cases loaded
            obtain ⟨text, written, read, accepted, rfl⟩ := (Settings.load_eq_ok_iff own).1 given
            exact .file path text written read accepted
      · intro settled
        cases settled with
        | file _ text written read accepted =>
            have given := (Settings.load_eq_ok_iff _).2 ⟨text, written, read, accepted, rfl⟩
            rw [given]
            rfl

def requested? (files : Files.Tree) : Option OsString → Option Request
  | none => some .empty
  | some path => (Request.load files path).toOption

def opened? (files : Files.Tree) : Option OsString → Option Registry
  | none => some .unavailable
  | some path => (Catalog.load files path).toOption.map .ok

theorem requested?_eq_some_iff :
    requested? files request = some asked ↔ RequestFrom files request asked := by
  cases request with
  | none =>
      constructor
      · rintro ⟨⟩
        exact .empty
      · rintro ⟨⟩
        rfl
  | some path =>
      rw [requested?, toOption_eq_some_iff, Request.load_eq_ok_iff]
      constructor
      · rintro ⟨text, read, accepted⟩
        exact .file path text asked read accepted
      · rintro ⟨⟩
        exact ⟨_, ‹_›, ‹_›⟩

theorem opened?_eq_some_iff :
    opened? files catalog = some registry ↔ RegistryFrom files catalog registry := by
  cases catalog with
  | none =>
      constructor
      · rintro ⟨⟩
        exact .unavailable
      · rintro ⟨⟩
        rfl
  | some path =>
      rw [opened?, Option.map_eq_some_iff]
      simp only [toOption_eq_some_iff, Catalog.load_eq_ok_iff]
      constructor
      · rintro ⟨entries, ⟨text, read, accepted⟩, rfl⟩
        exact .file path text entries read accepted
      · rintro ⟨⟩
        exact ⟨_, ⟨_, ‹_›, ‹_›⟩, rfl⟩

end Cli

end LintAdapter
