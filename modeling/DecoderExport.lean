import DecoderExport.Alignment
import DecoderExport.Boundary.CString
import DecoderExport.Boundary.Context
import DecoderExport.Boundary.IntArray
import DecoderExport.Boundary.Library
import DecoderExport.Boundary.LogFilter
import DecoderExport.Boundary.Pattern
import DecoderExport.Boundary.Status
import DecoderExport.Builder
import DecoderExport.Config
import DecoderExport.Config.Directory
import DecoderExport.Exporter
import DecoderExport.Fault
import DecoderExport.Handle
import DecoderExport.Host
import DecoderExport.Json.Cause
import DecoderExport.Json.Numeral
import DecoderExport.Json.Quoted
import DecoderExport.Json.Reader
import DecoderExport.Json.Record
import DecoderExport.Json.Scalar
import DecoderExport.Json.Sequence
import DecoderExport.Json.Skip
import DecoderExport.Json.Tree
import DecoderExport.Number.Binary
import DecoderExport.Number.Decimal
import DecoderExport.Number.Scaling
import DecoderExport.Objects.ClassDef
import DecoderExport.Objects.Model
import DecoderExport.Objects.Rule
import DecoderExport.Objects.Value
import DecoderExport.Payload
import DecoderExport.Payload.Reader
import DecoderExport.Scripting.Arguments
import DecoderExport.Scripting.Attribute
import DecoderExport.Scripting.Calls
import DecoderExport.Scripting.Class
import DecoderExport.Scripting.Compare
import DecoderExport.Scripting.Construction
import DecoderExport.Scripting.Datum
import DecoderExport.Scripting.Documentation
import DecoderExport.Scripting.Hosting
import DecoderExport.Scripting.Interpreter
import DecoderExport.Scripting.Items
import DecoderExport.Scripting.Member
import DecoderExport.Scripting.Namespace
import DecoderExport.Scripting.Path
import DecoderExport.Scripting.Routine
import DecoderExport.Scripting.Shown
import DecoderExport.Scripting.Standard
import DecoderExport.Signature
import DecoderExport.Text.Alphanumeric
import DecoderExport.Text.Blank
import DecoderExport.Text.CharSet
import DecoderExport.Text.Extending
import DecoderExport.Text.Printable
import DecoderExport.Text.Quoted
import DecoderExport.Text.Utf8
import DecoderExport.Proofs.Construction
import DecoderExport.Proofs.Stages
import DecoderExport.Proofs.Outcome
import DecoderExport.Proofs.Asking
import DecoderExport.Proofs.Refusal
import DecoderExport.Proofs.Grounds
import DecoderExport.Proofs.FailureOrder
import DecoderExport.Proofs.HostMap
import DecoderExport.Proofs.HostRelation
import DecoderExport.Proofs.Bench
import DecoderExport.Proofs.Provenance
import DecoderExport.Proofs.WellTyped
import DecoderExport.Proofs.Identity
import DecoderExport.Proofs.Likeness
import DecoderExport.Proofs.HistoryIndependence
import DecoderExport.Proofs.LookupCount
import DecoderExport.Proofs.Workshop
import DecoderExport.Proofs.WriteOnce
import DecoderExport.Proofs.AlignmentCodec
import DecoderExport.Proofs.FlatForms
import DecoderExport.Proofs.Session
import DecoderExport.Proofs.DefaultClasses
import DecoderExport.Proofs.Lossless
import DecoderExport.Proofs.Contexts
import DecoderExport.Proofs.WarmContext
import DecoderExport.Proofs.ConfigSpelling
import DecoderExport.Proofs.Configuration
import DecoderExport.Proofs.DecisionTable
import DecoderExport.Proofs.Complaint
import DecoderExport.Proofs.Building
import DecoderExport.Proofs.LastError
import DecoderExport.Proofs.Tokens
import DecoderExport.Proofs.Quoting
import DecoderExport.Proofs.Literal
import DecoderExport.Proofs.LiteralValue
import DecoderExport.Proofs.WellFormed
import DecoderExport.Proofs.Spelling
import DecoderExport.Proofs.RecordSpelling
import DecoderExport.Proofs.PayloadSpelling
import DecoderExport.Proofs.NumberText
import DecoderExport.Proofs.Magnitude
import DecoderExport.Proofs.PrintedNumber
import DecoderExport.Proofs.Rendering
import DecoderExport.Proofs.RoundTrip
import DecoderExport.Proofs.Unambiguous
import DecoderExport.Proofs.TextLossless
import DecoderExport.Proofs.Widening
import DecoderExport.Proofs.IndexLiteral
import DecoderExport.Proofs.Respelling
import DecoderExport.Proofs.IndexRange
import DecoderExport.Proofs.ScriptHost
import DecoderExport.Proofs.HostAgreement
import DecoderExport.Proofs.StepwiseExport
import DecoderExport.Proofs.FieldRendering
import DecoderExport.Proofs.EntryPoints
import DecoderExport.Proofs.NearestValue
import DecoderExport.Proofs.ShortestDecimal
import DecoderExport.Proofs.WideDecimal
import DecoderExport.Proofs.FlagSpelling
import DecoderExport.Proofs.FloatText
import DecoderExport.Proofs.NewObject
import DecoderExport.Proofs.ValueEquality
import DecoderExport.Proofs.EqualExports
import DecoderExport.Proofs.ConfigResolution
import DecoderExport.Proofs.Handover
import DecoderExport.Proofs.ShownText
