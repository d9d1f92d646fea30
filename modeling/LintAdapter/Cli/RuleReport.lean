import LintAdapter.Cli.Config

namespace LintAdapter

open Rule (Metadata Scope Setting)

structure RuleReport where
  id : String
  platformId : String
  unsupported : Bool
  undocumented : Bool
  scope : Option Scope
  metadata : Option Metadata

namespace RuleReport

def linterId (id : String) : String :=
  if id.toList.contains '/' then id else Rule.ofPlatformId id

def ofId (id : String) (metadata : Option Metadata) : RuleReport where
  id := id
  platformId := Rule.toPlatformId id
  unsupported := Rule.isUnsupported id
  undocumented := Rule.isUndocumented id
  scope := Rule.scope? id
  metadata := metadata

def inspect (name : String) (catalog : Option (List Catalog.Entry)) : RuleReport :=
  let id := linterId name
  ofId id ((catalog.bind (·.find? (·.id = id))).map (·.metadata))

def row (label value : String) : String :=
  label ++ String.ofList (List.replicate (18 - label.length) ' ') ++ " " ++ value ++ "\n"

def yesNo (value : Bool) : String := if value then "yes" else "no"

def scopeText : Option Scope → String
  | some scope => scope.name ++ " (" ++ ", ".intercalate scope.files ++ ")"
  | none => "all files"

def shownSetting (metadata : Metadata) : Setting :=
  if metadata.defaults.isEmpty then .enabled else .ofParameters (some metadata.defaults)

def metadataRows (metadata : Metadata) : List String := [
  row "Deprecated:" (yesNo metadata.deprecated),
  row "Recommended:" (yesNo metadata.recommended),
  row "Default setting:" (shownSetting metadata).toValue.compact]

def rows (report : RuleReport) : List String := [
  row "ESLint id:" report.id,
  row "Platform id:" report.platformId,
  row "Plugin:" ((Rule.plugin? report.id).getD "(core)"),
  row "Blacklisted:" (yesNo report.unsupported),
  row "Hidden from docs:" (yesNo report.undocumented),
  row "Scope:" (scopeText report.scope)] ++
  (report.metadata.map metadataRows).getD []

end RuleReport

namespace Cli

def catalogOf (files : Files.Tree) (settings : Settings) : Run (Option (List Catalog.Entry)) :=
  match settings.catalog with
  | none => pure none
  | some path => some <$> loadCatalog files path

def runRule (files : Files.Tree) (settings : Settings) (id : String) : Run Unit := do
  let report := RuleReport.inspect id (← catalogOf files settings)
  report.rows.forM Run.print

end Cli

end LintAdapter
