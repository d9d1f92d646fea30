import LintAdapter.Cli.Run
import LintAdapter.Settings

namespace LintAdapter.Cli

open Files (Tree Place)

def settingsFile : String := "lintbridge.toml"

def initialSettings : String := String.join ([
  "# lintbridge settings",
  "",
  "# Log every decision of the adapter (same as DEBUG=true)",
  "debug = false",
  "",
  "# Attach fix suggestions to issues (same as SUGGESTIONS=true)",
  "suggestions = false",
  "",
  "# JSON rule catalog used when neither the platform nor the repository",
  "# selects rules. Maps ESLint rule ids to their `meta` objects.",
  "# catalog = \"rules.json\"",
  "",
  "[analyzer]",
  "# Extra ignore patterns, added to the built-in set",
  "# (node_modules, dist, build, vendor, lockfiles, ...)",
  "exclude = [",
  "    \"**/generated/**\",",
  "]"].map (· ++ "\n"))

def initText : String :=
  "Created " ++ settingsFile ++ "\n" ++
  "\nNext steps:\n" ++
  "  1. Edit " ++ settingsFile ++ " to point `catalog` at your rule catalog\n" ++
  "  2. Run: lintbridge config --pretty\n"

def writeText (files : Tree) (path text : String) : Except Files.Failure Tree :=
  if files.isDirectory path then .error .isDirectory
  else .ok (files.write (Place.ofPath path) text.toUTF8)

def writeSettings (files : Tree) (force : Bool) : Run Unit :=
  if files.isThere settingsFile && !force then
    Run.fail ("Settings file already exists at " ++ settingsFile ++
      ". Use --force to overwrite.") []
  else
    match writeText files settingsFile initialSettings with
    | .ok written => Run.leave written
    | .error failure => Run.fail failure.message []

def runInit (files : Tree) (force : Bool) : Run Unit := do
  writeSettings files force
  Run.print initText

end LintAdapter.Cli
