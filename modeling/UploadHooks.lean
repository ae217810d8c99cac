import UploadHooks.CommandLine
import UploadHooks.CommandLine.Help
import UploadHooks.Duration
import UploadHooks.Entries
import UploadHooks.Event
import UploadHooks.Filename
import UploadHooks.Hook
import UploadHooks.Hook.Configuration
import UploadHooks.Http
import UploadHooks.Issue
import UploadHooks.Json.Fault
import UploadHooks.Json.Number
import UploadHooks.Json.Reader
import UploadHooks.Json.Shape
import UploadHooks.Json.Value
import UploadHooks.Json.Writer
import UploadHooks.Lifecycle
import UploadHooks.Main
import UploadHooks.Metadata
import UploadHooks.Numeric.Binary64
import UploadHooks.Numeric.Literal
import UploadHooks.Numeric.Natural
import UploadHooks.Numeric.Shortest
import UploadHooks.Proofs.Hook.PreCreate
import UploadHooks.Proofs.Schema.Validation
import UploadHooks.Proofs.Session
import UploadHooks.Proofs.Status.Disturbance
import UploadHooks.Proofs.Status.Exchange
import UploadHooks.Proofs.Steadiness
import UploadHooks.Proofs.Upload
import UploadHooks.Proofs.Verification.ReportProtocol
import UploadHooks.Proofs.Verification.Verdict
import UploadHooks.Schema.Config
import UploadHooks.Schema.Document
import UploadHooks.Schema.Directory
import UploadHooks.Schema.Selection
import UploadHooks.Schema.Store
import UploadHooks.Schema.Validation
import UploadHooks.Session
import UploadHooks.Status.Call
import UploadHooks.Status.Client
import UploadHooks.Status.Policy
import UploadHooks.Status.Settings
import UploadHooks.Text.Blank
import UploadHooks.Text.CodePoints
import UploadHooks.Text.CombiningClass
import UploadHooks.Text.Composition
import UploadHooks.Text.Mark
import UploadHooks.Text.Quoted
import UploadHooks.Text.Unprintable
import UploadHooks.Text.Utf8
import UploadHooks.TraceSpan
import UploadHooks.Upload
import UploadHooks.Url.Authority
import UploadHooks.Url.Basic
import UploadHooks.Url.Domain
import UploadHooks.Url.Domain.Direction
import UploadHooks.Url.Domain.Joining
import UploadHooks.Url.Domain.Mapping
import UploadHooks.Url.Extend
import UploadHooks.Url.File
import UploadHooks.Url.Form
import UploadHooks.Url.Host
import UploadHooks.Url.Parse
import UploadHooks.Url.Path
import UploadHooks.Url.Percent
import UploadHooks.Url.Punycode
import UploadHooks.Verification
import UploadHooks.Verification.Report
import UploadHooks.Verification.Reporting
import UploadHooks.Version
import UploadHooks.Proofs.Hook.Interactions
import UploadHooks.Proofs.Entries
import UploadHooks.Proofs.Json.RoundTrip
import UploadHooks.Proofs.Metadata
import UploadHooks.Proofs.Hook.Completion
import UploadHooks.Proofs.Json.Ordered
import UploadHooks.Proofs.Schema.Document
import UploadHooks.Proofs.Json.Lists
import UploadHooks.Proofs.Json.Rereading
import UploadHooks.Proofs.Json.Inversion
import UploadHooks.Proofs.Schema.RoundTrip
import UploadHooks.Proofs.Url.Form
import UploadHooks.Proofs.Url.Parameters
import UploadHooks.Proofs.Url.Segments
import UploadHooks.Proofs.Status.Call
import UploadHooks.Proofs.Lifecycle
import UploadHooks.Proofs.Flows.Ids
import UploadHooks.Proofs.Verification.ReportText
import UploadHooks.Proofs.Flows.Wording
import UploadHooks.Proofs.Verification.DecidingFields
import UploadHooks.Proofs.Schema.Directory
import UploadHooks.Proofs.Url.Reading
import UploadHooks.Proofs.Text.Trim
import UploadHooks.Proofs.Numeric.Natural
import UploadHooks.Proofs.Version.Order
import UploadHooks.Proofs.Status.Attempts
import UploadHooks.Proofs.Status.Settings
import UploadHooks.Proofs.Verification.Quoting
import UploadHooks.Proofs.Schema.DocumentUrl
import UploadHooks.Proofs.Schema.Selection
import UploadHooks.Proofs.Upload.Outcome
import UploadHooks.Proofs.Version.Grammar
import UploadHooks.Proofs.Metadata.Reading
import UploadHooks.Proofs.Json.OpenObject
import UploadHooks.Proofs.Filename
import UploadHooks.Proofs.Schema.RuleIssues
import UploadHooks.Proofs.Numeric.Reading
import UploadHooks.Proofs.Status.Waits
import UploadHooks.Proofs.TraceSpan
