namespace LintAdapter.Rule

def occurs (needle : List Char) : List Char → Bool
  | [] => needle.isEmpty
  | c :: rest => needle.isPrefixOf (c :: rest) || occurs needle rest

def occursInLine (needle : List Char) : List Char → Bool
  | [] => needle.isEmpty
  | c :: rest => needle.isPrefixOf (c :: rest) || (c != '\n' && occursInLine needle rest)

def occursTogether (first last : List Char) : List Char → Bool
  | [] => first.isEmpty && last.isEmpty
  | c :: rest =>
    (first.isPrefixOf (c :: rest) && occursInLine last ((c :: rest).drop first.length)) ||
      occursTogether first last rest

/-- What an excluded id holds: a text, or two texts on one line in this order. -/
inductive Exclusion where
  | text (needle : String)
  | sameLine (first last : String)

namespace Exclusion

def excludes (id : String) : Exclusion → Bool
  | .text needle => occurs needle.toList id.toList
  | .sameLine first last => occursTogether first.toList last.toList id.toList

def unsupported : List Exclusion := [
  .text "@lwc/lwc/no-async-operation",
  .text "@lwc/lwc/no-leaky-event-listeners",
  .text "@lwc/lwc/no-unexpected-wire-adapter-usages",
  .text "@lwc/lwc/no-unknown-wire-adapters",
  .text "@lwc/lwc/no-restricted-browser-globals-during-ssr",
  .text "@lwc/lwc/no-node-env-in-ssr",
  .text "@lwc/lwc/prefer-custom-event",
  .text "@salesforce/lightning/valid-apex-method-invocation",
  .text "@typescript-eslint/consistent-type-imports",
  .text "@typescript-eslint/ban-types",
  .text "@shopify/jest-no-all-mocks-methods",
  .text "angular/service-name",
  .text "ember/no-restricted-property-modifications",
  .text "ember/template-indent",
  .text "expect-type/expect",
  .text "backbone/event-scope",
  .text "backbone/no-silent",
  .text "filenames/match-regex",
  .text "filenames/match-exported",
  .text "filenames/no-index",
  .text "functional/functional-parameters",
  .text "functional/immutable-data",
  .text "functional/no-conditional-statements",
  .text "functional/no-expression-statements",
  .text "functional/no-let",
  .text "functional/no-mixed-types",
  .text "functional/no-return-void",
  .text "functional/no-throw-statements",
  .text "functional/no-try-statements",
  .text "functional/prefer-immutable-types",
  .text "functional/type-declaration-immutability",
  .text "import/newline-after-import",
  .text "import/no-amd",
  .text "import/no-commonjs",
  .text "import/no-mutable-exports",
  .text "xss/no-mixed-html",
  .sameLine "unused-imports/" "-ts",
  .text "yml/sort-sequence-values",
  .text "jest/unbound-method",
  .text "angular/di-unused",
  .text "@typescript-eslint/no-unsafe-"]

def undocumented : List Exclusion := [
  .text "@shopify/no-debugger",
  .text "react-redux/mapStateToProps-prefer-parameters-names",
  .text "react-redux/prefer-separate-component-file",
  .text "react-redux/mapStateToProps-prefer-hoisted",
  .text "react-redux/connect-prefer-named-arguments",
  .text "react-redux/mapDispatchToProps-prefer-parameters-names",
  .text "react-redux/mapDispatchToProps-returns-object",
  .text "react-redux/mapDispatchToProps-prefer-shorthand",
  .text "react-redux/connect-prefer-minimum-two-arguments",
  .text "react-redux/mapStateToProps-no-store",
  .text "jasmine/named-spy",
  .text "jasmine/no-unsafe-spy",
  .text "jasmine/no-focused-tests",
  .text "jasmine/no-assign-spyon",
  .text "jasmine/no-describe-variables",
  .text "jasmine/expect-matcher",
  .text "jasmine/no-pending-tests",
  .text "jasmine/no-suite-callback-args",
  .text "jasmine/prefer-toHaveBeenCalledWith",
  .text "jasmine/no-disabled-tests",
  .text "jasmine/prefer-jasmine-matcher",
  .text "jasmine/no-global-setup",
  .text "jasmine/expect-single-argument",
  .text "jasmine/valid-expect",
  .text "@vitest/padding-around-after-all-blocks",
  .text "@vitest/padding-around-after-each-blocks",
  .text "@vitest/padding-around-before-all-blocks",
  .text "@vitest/padding-around-before-each-blocks",
  .text "@vitest/padding-around-expect-groups",
  .text "@vitest/padding-around-describe-blocks",
  .text "@vitest/padding-around-test-blocks",
  .text "@vitest/padding-around-all",
  .text "@typescript-eslint/no-unsafe-"]

end Exclusion

def isUnsupported (id : String) : Bool := Exclusion.unsupported.any (·.excludes id)

def isUndocumented (id : String) : Bool := Exclusion.undocumented.any (·.excludes id)

end LintAdapter.Rule
