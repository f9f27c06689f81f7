import RepoVitals.Assembly.Batches
import RepoVitals.Assembly.Draft
import RepoVitals.Assembly.Fanout
import RepoVitals.Assembly.Inquiry
import RepoVitals.Assembly.Measuring
import RepoVitals.Assembly.Prompt
import RepoVitals.Assembly.Script
import RepoVitals.Assembly.Volley
import RepoVitals.Batch
import RepoVitals.Binary64.Basic
import RepoVitals.Binary64.Reading
import RepoVitals.Binary64.Shortest
import RepoVitals.Bulk.Partition
import RepoVitals.Bulk.Pool
import RepoVitals.Bulk.Shift
import RepoVitals.Bulk.Verdict
import RepoVitals.Bulk.Write
import RepoVitals.Bulk.Writing
import RepoVitals.Calendar.Date
import RepoVitals.Calendar.Moment
import RepoVitals.Calendar.Reading
import RepoVitals.Catalogue.Family
import RepoVitals.Catalogue.Measure
import RepoVitals.Catalogue.Release
import RepoVitals.Catalogue.Row
import RepoVitals.Catalogue.Rows
import RepoVitals.Cluster.BulkAnswer
import RepoVitals.Cluster.Client
import RepoVitals.Cluster.Payload
import RepoVitals.Cluster.Transcript
import RepoVitals.CommandLine.Arguments
import RepoVitals.CommandLine.LogFilter
import RepoVitals.CommandLine.Session
import RepoVitals.Config.Configuration
import RepoVitals.Config.Environment
import RepoVitals.Config.Literal
import RepoVitals.Config.Load
import RepoVitals.Config.Quoted
import RepoVitals.Config.Reading
import RepoVitals.Config.Record
import RepoVitals.Config.Setting
import RepoVitals.Document
import RepoVitals.Errand
import RepoVitals.Failure
import RepoVitals.Http.Address
import RepoVitals.Http.Gzip
import RepoVitals.Http.Host
import RepoVitals.Http.Host.Composition
import RepoVitals.Http.Host.Direction
import RepoVitals.Http.Host.Joining
import RepoVitals.Http.Host.Label
import RepoVitals.Http.Host.Letters
import RepoVitals.Http.Host.Mark
import RepoVitals.Http.Host.Numeric
import RepoVitals.Http.Host.Punycode
import RepoVitals.Http.Host.Spelling
import RepoVitals.Http.Message
import RepoVitals.Http.Status
import RepoVitals.Http.Wire
import RepoVitals.Identity.DocumentId
import RepoVitals.Identity.Sha256
import RepoVitals.Index.Presence
import RepoVitals.Index.Settings
import RepoVitals.Json.Number
import RepoVitals.Json.Printer
import RepoVitals.Json.Token
import RepoVitals.Json.Value
import RepoVitals.Json.View
import RepoVitals.Json.Written
import RepoVitals.Ledger
import RepoVitals.Main
import RepoVitals.Pipeline
import RepoVitals.Search.Request
import RepoVitals.Search.Response
import RepoVitals.Sink.Basic
import RepoVitals.Sink.Memory
import RepoVitals.Sink.Rehearsed
import RepoVitals.Summary
import RepoVitals.Text.Alphanumeric
import RepoVitals.Text.Base64
import RepoVitals.Text.Blank
import RepoVitals.Text.Bytes
import RepoVitals.Text.Numeral
import RepoVitals.Text.Occurrence
import RepoVitals.Text.Ranges
import RepoVitals.Text.Table
import RepoVitals.Text.Width
import RepoVitals.Text.Width.Hidden
import RepoVitals.Text.Width.Pictograph
import RepoVitals.Text.Width.Wide
import RepoVitals.Toml.Carrier
import RepoVitals.Toml.Document
import RepoVitals.Toml.Scalar
import RepoVitals.Toml.Table
import RepoVitals.Toml.Token
import RepoVitals.Toml.Value
import RepoVitals.Proofs.Bulk.Cover
import RepoVitals.Proofs.Bulk.Logbook
import RepoVitals.Proofs.Bulk.Parts
import RepoVitals.Proofs.Bulk.Runs
import RepoVitals.Proofs.Bulk.Pool
import RepoVitals.Proofs.Bulk.Shift
import RepoVitals.Proofs.Bulk.Accounting
import RepoVitals.Proofs.Bulk.Outstanding
import RepoVitals.Proofs.Calendar.Rendering
import RepoVitals.Proofs.Identity.NaturalKey
import RepoVitals.Proofs.Identity.DocumentId
import RepoVitals.Proofs.Ledger
import RepoVitals.Proofs.Batch
import RepoVitals.Proofs.Assembly.Drafts
import RepoVitals.Proofs.Assembly.Inquiry
import RepoVitals.Proofs.Assembly.Rows
import RepoVitals.Proofs.Search.Shape
import RepoVitals.Proofs.Assembly.Scalars
import RepoVitals.Proofs.Assembly.Labels
import RepoVitals.Proofs.Json.Fields
import RepoVitals.Proofs.Search.Body
import RepoVitals.Proofs.Search.Collection
import RepoVitals.Proofs.Search.Evaluation
import RepoVitals.Proofs.Assembly.LookupModes
import RepoVitals.Proofs.Assembly.Steady
import RepoVitals.Proofs.Assembly.Fanout
import RepoVitals.Proofs.Assembly.Findings
import RepoVitals.Proofs.Assembly.Completion
import RepoVitals.Proofs.Sink.Watched
import RepoVitals.Proofs.Pipeline
import RepoVitals.Proofs.Binary64.Rounding
import RepoVitals.Proofs.Binary64.Shortest
import RepoVitals.Proofs.Json.Decimal
import RepoVitals.Proofs.Json.Scanning
import RepoVitals.Proofs.Json.Reading
import RepoVitals.Proofs.Cluster.Payload
import RepoVitals.Proofs.Binary64.Integer
import RepoVitals.Proofs.Document
import RepoVitals.Proofs.Search.Figures
import RepoVitals.Proofs.Assembly.Results
import RepoVitals.Proofs.Assembly.Identity
import RepoVitals.Proofs.Assembly.Picking
import RepoVitals.Proofs.Assembly.Isolation
import RepoVitals.Proofs.Assembly.Moments
import RepoVitals.Proofs.Sink.Rewriting
import RepoVitals.Proofs.Bulk.Serving
import RepoVitals.Proofs.Bulk.Twins
import RepoVitals.Proofs.Rerun
import RepoVitals.Proofs.Assembly.Checks
import RepoVitals.Proofs.Assembly.Cap
import RepoVitals.Proofs.Assembly.Parts
import RepoVitals.Proofs.Bulk.Races
import RepoVitals.Proofs.Bulk.Balance
import RepoVitals.Proofs.Frozen
import RepoVitals.Proofs.Assembly.Stopping
import RepoVitals.Proofs.Config.Precedence
import RepoVitals.Proofs.Cluster.BulkAnswer
import RepoVitals.Proofs.Search.Buckets
import RepoVitals.Proofs.Bulk.Rejections
import RepoVitals.Proofs.Assembly.Concerns
import RepoVitals.Proofs.Assembly.Culprits
import RepoVitals.Proofs.Assembly.Lights
import RepoVitals.Proofs.Binary64.Overflow
import RepoVitals.Proofs.Binary64.Spelling
import RepoVitals.Proofs.Catalogue.Coverage
import RepoVitals.Proofs.Catalogue.Release
import RepoVitals.Proofs.Search.Decoding
import RepoVitals.Proofs.Summary
import RepoVitals.Proofs.Config.Verbatim
import RepoVitals.Proofs.Config.Layers
import RepoVitals.Proofs.Config.Credentials
import RepoVitals.Proofs.Search.Reordering
import RepoVitals.Proofs.Assembly.Reordering
