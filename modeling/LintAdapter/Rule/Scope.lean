import LintAdapter.Glob

namespace LintAdapter.Rule

/-- Rules that only make sense for some files: a glob over their ids, and the globs of the files.
They go into a block of their own. -/
structure Scope where
  name : String
  pattern : String
  files : List String
  deriving DecidableEq

namespace Scope

def storybook : Scope where
  name := "storybook"
  pattern := "storybook/*"
  files := ["*.stories.@(ts|tsx|js|jsx|mjs|cjs)", "*.story.@(ts|tsx|js|jsx|mjs|cjs)"]

def all : List Scope := [storybook]

def covers (scope : Scope) (id : String) : Bool := Glob.isMatch scope.pattern id

end Scope

def scope? (id : String) : Option Scope := Scope.all.find? (·.covers id)

end LintAdapter.Rule
