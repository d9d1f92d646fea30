import LintAdapter.Main
import LintAdapter.Proofs.Catalog.Shapes
import LintAdapter.Proofs.Cli.Convert
import LintAdapter.Proofs.Cli.FileErrors
import LintAdapter.Proofs.Cli.Members
import LintAdapter.Proofs.Cli.Pretty
import LintAdapter.Proofs.Cli.RuleReport
import LintAdapter.Proofs.Cli.Settings
import LintAdapter.Proofs.Conversion.Building
import LintAdapter.Proofs.Conversion.Erasure
import LintAdapter.Proofs.Conversion.Ids
import LintAdapter.Proofs.Conversion.Lines
import LintAdapter.Proofs.Request
import LintAdapter.Proofs.Rule.Setting
import LintAdapter.Proofs.Rule.Spelling
import LintAdapter.Proofs.Suggestion.Bytes
import LintAdapter.Proofs.Suggestion.LineEndings
import LintAdapter.Proofs.Suggestion.Returns
import LintAdapter.Proofs.Synthesis.Ignores
import LintAdapter.Proofs.Synthesis.Printed
import LintAdapter.Proofs.Synthesis.Selection
import LintAdapter.Proofs.Synthesis.Unsupported
import LintAdapter.Proofs.Text.UnitByte
