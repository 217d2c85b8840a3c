import FieldRules.Main
import FieldRules.Redaction
import FieldRules.Proofs.Compile.Arguments
import FieldRules.Proofs.Compile.Field
import FieldRules.Proofs.Compile.WellFormed
import FieldRules.Proofs.Batch.Exact
import FieldRules.Proofs.Compile.Meaning
import FieldRules.Proofs.Batch.Trace
import FieldRules.Proofs.Command.Cap
import FieldRules.Proofs.Command.Account
import FieldRules.Proofs.Command.Verdict
import FieldRules.Proofs.Json.Path
import FieldRules.Proofs.Redaction.Value
import FieldRules.Proofs.Redaction.Assignment
import FieldRules.Proofs.Redaction.Masking
import FieldRules.Proofs.Json.Spelling
import FieldRules.Proofs.Json.Form
import FieldRules.Proofs.Declaration.Loading
import FieldRules.Proofs.Declaration.History
import FieldRules.Proofs.Compile.WellTyped
import FieldRules.Proofs.Decimal.Rounding
import FieldRules.Proofs.Decimal.Shortest
import FieldRules.Proofs.Json.Numeral
import FieldRules.Proofs.Json.Layout
import FieldRules.Proofs.Declaration.RoundTrip
import FieldRules.Proofs.Compile.Change
import FieldRules.Proofs.Pipeline.Failure
import FieldRules.Proofs.Pipeline.Order
import FieldRules.Proofs.Pipeline.Requirement
import FieldRules.Proofs.Pipeline.Restriction
import FieldRules.Proofs.Validation.Independence
import FieldRules.Proofs.Decimal.Value
import FieldRules.Proofs.Compile.Refusal
import FieldRules.Proofs.Compile.Fault
import FieldRules.Proofs.Template
import FieldRules.Proofs.Compile.Size
import FieldRules.Proofs.Decimal.Literal
import FieldRules.Proofs.Pipeline.Comparison
import FieldRules.Proofs.Decimal.Whole
import FieldRules.Proofs.Text.Trim
import FieldRules.Proofs.Pipeline.Padding
import FieldRules.Proofs.Pipeline.SpelledNumber
import FieldRules.Proofs.Pipeline.IntegerBounds
import FieldRules.Proofs.Pattern.Places
import FieldRules.Proofs.Pattern.Span
import FieldRules.Proofs.Email
import FieldRules.Proofs.Redaction.Repetition
import FieldRules.Proofs.Redaction.Names
import FieldRules.Proofs.Report.Glance
import FieldRules.Proofs.Command.Echo
import FieldRules.Proofs.Command.Distinct
import FieldRules.Proofs.Command.Output
import FieldRules.Proofs.Command.Log
import FieldRules.Proofs.Compile.Positions
import FieldRules.Proofs.Report.Faithful
import FieldRules.Proofs.Report.Alignment
import FieldRules.Proofs.Json.Skip
import FieldRules.Proofs.Json.Record
import FieldRules.Proofs.Command.Saved
