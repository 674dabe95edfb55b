import SiteSafety.Accumulated
import SiteSafety.Basic
import SiteSafety.Certification
import SiteSafety.Command.Arguments
import SiteSafety.Command.Run
import SiteSafety.Csv
import SiteSafety.Decimal.Layout
import SiteSafety.Decimal.Numeral
import SiteSafety.Decimal.Shortest
import SiteSafety.Event
import SiteSafety.Gauges
import SiteSafety.HazardTable
import SiteSafety.Impact
import SiteSafety.Json.Basic
import SiteSafety.Json.Form
import SiteSafety.Json.Lexeme
import SiteSafety.Json.Schema
import SiteSafety.Json.Skip
import SiteSafety.LogFilter
import SiteSafety.Main
import SiteSafety.NodeTable
import SiteSafety.Pattern.Basic
import SiteSafety.Pattern.Brackets
import SiteSafety.Pattern.Reader
import SiteSafety.Proofs.Accumulated.Calls
import SiteSafety.Proofs.Accumulated.Deletion
import SiteSafety.Proofs.Accumulated.Finiteness
import SiteSafety.Proofs.Accumulated.Grouping
import SiteSafety.Proofs.Certification.Acceptance
import SiteSafety.Proofs.Certification.Audit
import SiteSafety.Proofs.Certification.Chain
import SiteSafety.Proofs.Certification.Compliance
import SiteSafety.Proofs.Certification.Cycle
import SiteSafety.Proofs.Certification.Dependence
import SiteSafety.Proofs.Certification.Finiteness
import SiteSafety.Proofs.Certification.Flow
import SiteSafety.Proofs.Certification.Mean
import SiteSafety.Proofs.Certification.Outcome
import SiteSafety.Proofs.Certification.Pollution
import SiteSafety.Proofs.Command.Run
import SiteSafety.Proofs.Csv
import SiteSafety.Proofs.Csv.Lines
import SiteSafety.Proofs.Float.Alike
import SiteSafety.Proofs.Float.Arithmetic
import SiteSafety.Proofs.Float.Basic
import SiteSafety.Proofs.Float.Bounds
import SiteSafety.Proofs.Float.FiniteOrder
import SiteSafety.Proofs.Float.Magnitude
import SiteSafety.Proofs.Float.Operations
import SiteSafety.Proofs.Float.Order
import SiteSafety.Proofs.Float.Packing
import SiteSafety.Proofs.Float.Rounding
import SiteSafety.Proofs.Float.Unpacked
import SiteSafety.Proofs.Float.Value
import SiteSafety.Proofs.Float.Whole
import SiteSafety.Proofs.Float.Word
import SiteSafety.Proofs.Float.Zero
import SiteSafety.Proofs.Gauges
import SiteSafety.Proofs.Gauges.Exposition
import SiteSafety.Proofs.Gauges.Keys
import SiteSafety.Proofs.HazardTable
import SiteSafety.Proofs.HazardTable.Calls
import SiteSafety.Proofs.Impact.Calls
import SiteSafety.Proofs.Impact.Deletion
import SiteSafety.Proofs.Json.Form
import SiteSafety.Proofs.Json.Layout
import SiteSafety.Proofs.Json.Lexeme
import SiteSafety.Proofs.Json.Numeral
import SiteSafety.Proofs.Lookup
import SiteSafety.Proofs.NodeTable
import SiteSafety.Proofs.NodeTable.Lines
import SiteSafety.Proofs.NodeTable.Quoting
import SiteSafety.Proofs.Record.Canonical
import SiteSafety.Proofs.Record.Equality
import SiteSafety.Proofs.Record.Field
import SiteSafety.Proofs.Record.Layout
import SiteSafety.Proofs.Record.Queries
import SiteSafety.Proofs.Record.RoundTrip
import SiteSafety.Proofs.Record.Stamped
import SiteSafety.Proofs.Record.Validity
import SiteSafety.Proofs.Record.WordCodec
import SiteSafety.Proofs.Rows
import SiteSafety.Proofs.Schema.Settings
import SiteSafety.Proofs.Text
import SiteSafety.Proofs.Validation
import SiteSafety.Proofs.Verdict
import SiteSafety.Proofs.Verdict.Gate
import SiteSafety.Proofs.Verdict.Potential
import SiteSafety.Record.Basic
import SiteSafety.Record.Layout
import SiteSafety.Record.Wire
import SiteSafety.Report
import SiteSafety.Schema.Quantities
import SiteSafety.Schema.Settings
import SiteSafety.Schema.SiteState
import SiteSafety.Schema.Verdicts
import SiteSafety.Settings
import SiteSafety.SiteState
import SiteSafety.Text.Characters
import SiteSafety.Text.Encoding
import SiteSafety.Text.Quoted
import SiteSafety.Verdict
