import ProxyHistory.Client.Command
import ProxyHistory.Config
import ProxyHistory.Engine
import ProxyHistory.Hub.Basic
import ProxyHistory.Main
import ProxyHistory.Proofs.Base64
import ProxyHistory.Proofs.Client.Assembly
import ProxyHistory.Proofs.Client.Columns
import ProxyHistory.Proofs.Client.Envelope
import ProxyHistory.Proofs.Client.Report
import ProxyHistory.Proofs.Client.RowLimit
import ProxyHistory.Proofs.Client.Sessions
import ProxyHistory.Proofs.Client.Transports
import ProxyHistory.Proofs.Condition.Comparisons
import ProxyHistory.Proofs.Condition.ContentTypes
import ProxyHistory.Proofs.Condition.Grammar
import ProxyHistory.Proofs.Condition.Operator
import ProxyHistory.Proofs.Condition.Readers
import ProxyHistory.Proofs.Condition.Readings
import ProxyHistory.Proofs.Condition.Scanned
import ProxyHistory.Proofs.Condition.Spacing
import ProxyHistory.Proofs.Condition.Written
import ProxyHistory.Proofs.FieldRegistry
import ProxyHistory.Proofs.FieldRegistry.Registration
import ProxyHistory.Proofs.Form
import ProxyHistory.Proofs.Hub.Atomicity
import ProxyHistory.Proofs.Hub.Batches
import ProxyHistory.Proofs.Hub.Exchanges
import ProxyHistory.Proofs.Hub.Queries
import ProxyHistory.Proofs.Json.Compact
import ProxyHistory.Proofs.Json.Controls
import ProxyHistory.Proofs.Json.Fields
import ProxyHistory.Proofs.Json.Grammar
import ProxyHistory.Proofs.Json.Numbers
import ProxyHistory.Proofs.Json.Parts
import ProxyHistory.Proofs.Json.Records
import ProxyHistory.Proofs.Json.Strings
import ProxyHistory.Proofs.Json.Values
import ProxyHistory.Proofs.Message
import ProxyHistory.Proofs.Message.Headers
import ProxyHistory.Proofs.Message.Written
import ProxyHistory.Proofs.Projection
import ProxyHistory.Proofs.Projection.Exactness
import ProxyHistory.Proofs.Query.Clauses
import ProxyHistory.Proofs.Query.Joined
import ProxyHistory.Proofs.Query.Literals
import ProxyHistory.Proofs.Query.Opacity
import ProxyHistory.Proofs.Query.Parts
import ProxyHistory.Proofs.Query.Rescanning
import ProxyHistory.Proofs.Query.RoundTrip
import ProxyHistory.Proofs.Query.Slices
import ProxyHistory.Proofs.Query.Written
import ProxyHistory.Proofs.Selection.Bound
import ProxyHistory.Proofs.Selection.Conjunction
import ProxyHistory.Proofs.Selection.Cuts
import ProxyHistory.Proofs.Selection.Limits
import ProxyHistory.Proofs.Selection.NewestCopies
import ProxyHistory.Proofs.Selection.Refusals
import ProxyHistory.Proofs.Selection.Repeats
import ProxyHistory.Proofs.Selection.Stability
import ProxyHistory.Proofs.SortedMap
import ProxyHistory.Proofs.Steps
import ProxyHistory.Proofs.Store.Window
import ProxyHistory.Proofs.Table
import ProxyHistory.Proofs.Text.Folding
import ProxyHistory.Proofs.Text.Lowering
import ProxyHistory.Proofs.Text.Search
import ProxyHistory.Proofs.Text.Slices
import ProxyHistory.Proofs.Text.Utf8
import ProxyHistory.Proofs.Transaction
import ProxyHistory.Proofs.Url.Front
import ProxyHistory.Proofs.Url.Parts
