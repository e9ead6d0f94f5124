import CssAudit.Accessibility.Check
import CssAudit.Accessibility.Compliance
import CssAudit.Accessibility.Context
import CssAudit.Accessibility.Issue
import CssAudit.Accessibility.Level
import CssAudit.Accessibility.PairCheck
import CssAudit.Accessibility.Probe
import CssAudit.Accessibility.Report
import CssAudit.Accessibility.Rules.Contrast
import CssAudit.Accessibility.Rules.Keyboard
import CssAudit.Accessibility.Rules.Reading
import CssAudit.Accessibility.Rules.WholeSheet
import CssAudit.Accessibility.Typography
import CssAudit.Datum
import CssAudit.Color.Basic
import CssAudit.Color.Contrast
import CssAudit.Color.Hsl
import CssAudit.Color.Literal
import CssAudit.CommandLine.Arguments
import CssAudit.CommandLine.Commands
import CssAudit.CommandLine.Help
import CssAudit.CommandLine.Input
import CssAudit.CommandLine.Outcome
import CssAudit.CommandLine.Program
import CssAudit.Gate.Sanitize
import CssAudit.Gate.InlineStyle
import CssAudit.Gate.Rejection
import CssAudit.Gate.Tables
import CssAudit.Gate.Validation
import CssAudit.Gate.Verdict
import CssAudit.Json.Reader
import CssAudit.Json.Writer
import CssAudit.Main
import CssAudit.Numeral.Exact
import CssAudit.Numeral.Integer
import CssAudit.Numeral.Shortest
import CssAudit.OrderedMap
import CssAudit.Proofs.Batch
import CssAudit.Proofs.Gate.Danger
import CssAudit.Proofs.OrderedMap
import CssAudit.Proofs.Text.Collapse
import CssAudit.Proofs.Text.Lowering
import CssAudit.Proofs.Value.Url
import CssAudit.Service
import CssAudit.Settings
import CssAudit.Stylesheet.Comment
import CssAudit.Stylesheet.Declarations
import CssAudit.Stylesheet.Rule
import CssAudit.Stylesheet.Selector
import CssAudit.Text.Basic
import CssAudit.Text.Blank
import CssAudit.Text.Case
import CssAudit.Text.CaseTable
import CssAudit.Text.Digit
import CssAudit.Text.Lemmas
import CssAudit.Text.Printable
import CssAudit.Text.Word
import CssAudit.Value.Basic
import CssAudit.Value.Parser
import CssAudit.Value.Tokens
import CssAudit.Proofs.Color.Alphabet
import CssAudit.Proofs.Gate.Acceptance
import CssAudit.Proofs.Gate.Admission
import CssAudit.Proofs.Gate.Survival
import CssAudit.Proofs.Gate.Rendering
import CssAudit.Proofs.Stylesheet.Comments
import CssAudit.Proofs.Stylesheet.RoundTrip
import CssAudit.Proofs.Stylesheet.Enclosing
import CssAudit.Proofs.OrderedMap.Collection
import CssAudit.Proofs.Gate.Concatenation
import CssAudit.Proofs.Gate.Refusals
import CssAudit.Proofs.Gate.RoundTrip
import CssAudit.Proofs.Gate.Projection
import CssAudit.Proofs.Text.Padding
import CssAudit.Proofs.Text.Solid
import CssAudit.Proofs.Stylesheet.Importance
import CssAudit.Proofs.Stylesheet.Blocks
import CssAudit.Proofs.Stylesheet.Forest
import CssAudit.Proofs.Stylesheet.Flattening
import CssAudit.Proofs.Text.Figure
import CssAudit.Proofs.Accessibility.Typography
import CssAudit.Proofs.Accessibility.Returning
import CssAudit.Proofs.Gate.Returning
import CssAudit.Proofs.Accessibility.Gated
import CssAudit.Proofs.Stylesheet.Concatenation
import CssAudit.Proofs.Accessibility.Conformance
import CssAudit.Proofs.Accessibility.Agreement
import CssAudit.Proofs.Color.Hex
import CssAudit.Proofs.Color.Repair
import CssAudit.Proofs.Accessibility.Findings
import CssAudit.Proofs.Accessibility.Advice
import CssAudit.Proofs.Text.Small
import CssAudit.Proofs.Value.Small
import CssAudit.Proofs.Gate.Caseless
import CssAudit.Proofs.Numeral.Ordered
import CssAudit.Proofs.Accessibility.Comparison
import CssAudit.Proofs.Value.Numbers
import CssAudit.Proofs.Value.Grammar
import CssAudit.Proofs.Gate.Faults
import CssAudit.Proofs.Gate.Language
import CssAudit.Proofs.Value.Parentheses
import CssAudit.Proofs.Gate.Calls
import CssAudit.Proofs.Gate.Isolation
import CssAudit.Proofs.Gate.Order
import CssAudit.Proofs.Stylesheet.Rules
import CssAudit.Proofs.Accessibility.Flags
import CssAudit.Proofs.CommandLine.Dispatch
import CssAudit.Proofs.CommandLine.Checking
import CssAudit.Proofs.Accessibility.Arrangement
import CssAudit.Proofs.Accessibility.Background
import CssAudit.Proofs.Accessibility.Lattice
import CssAudit.Proofs.Accessibility.Probes
import CssAudit.Proofs.Accessibility.Context
import CssAudit.Proofs.Stylesheet.Selectors
import CssAudit.Proofs.Value.Splitting
import CssAudit.Proofs.Color.Spellings
import CssAudit.Proofs.Text.Words
import CssAudit.Proofs.Gate.NormalForm
