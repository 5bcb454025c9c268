import SqlGateway.Classification
import SqlGateway.Connector
import SqlGateway.Counter
import SqlGateway.Dialect
import SqlGateway.Federation
import SqlGateway.Gateway
import SqlGateway.Http.Document
import SqlGateway.Http.Layers
import SqlGateway.Http.Route
import SqlGateway.Http.Service
import SqlGateway.Join
import SqlGateway.JoinQuery.Document
import SqlGateway.JoinQuery.Parser
import SqlGateway.Json.Reader
import SqlGateway.Json.Writer
import SqlGateway.Lifecycle
import SqlGateway.Text.Printable
import SqlGateway.Transactional.Client
import SqlGateway.Value.Carried
import SqlGateway.Warehouse.Client
import SqlGateway.Warehouse.Statement
import SqlGateway.Proofs.Join.NestedLoop
import SqlGateway.Proofs.Join.Pushdown
import SqlGateway.Proofs.Join.Exclusion
import SqlGateway.Proofs.Text.Blank
import SqlGateway.Proofs.Text.Letters
import SqlGateway.Proofs.Token.Layout
import SqlGateway.Proofs.Token.Spans
import SqlGateway.Proofs.JoinQuery.Grammar
import SqlGateway.Proofs.JoinQuery.Lenient
import SqlGateway.Proofs.JoinQuery.Readers
import SqlGateway.Proofs.JoinQuery.Front
import SqlGateway.Proofs.JoinQuery.Sentences
import SqlGateway.Proofs.JoinQuery.Acceptance
import SqlGateway.Proofs.Reference.Blanks
import SqlGateway.Proofs.Reference.Places
import SqlGateway.Proofs.Reference.Paths
import SqlGateway.Proofs.JoinQuery.TableNames
import SqlGateway.Proofs.JoinQuery.Routing
import SqlGateway.Proofs.JoinQuery.Departures
import SqlGateway.Proofs.Join.Columns
import SqlGateway.Proofs.Result.Columns
import SqlGateway.Proofs.Gateway.Calls
import SqlGateway.Proofs.Warehouse.History
import SqlGateway.Proofs.Warehouse.Foreign
import SqlGateway.Proofs.Warehouse.Lifecycle
import SqlGateway.Proofs.Warehouse.Conduct
import SqlGateway.Proofs.Warehouse.Tables
import SqlGateway.Proofs.Connector.Tables
import SqlGateway.Proofs.Binary64.Rounding
import SqlGateway.Proofs.Snapshot.Years
import SqlGateway.Proofs.Snapshot.Moments
import SqlGateway.Proofs.Snapshot.Keeping
import SqlGateway.Proofs.Gateway.Ledger
import SqlGateway.Proofs.Gateway.Schemas
import SqlGateway.Proofs.Token.Spacing
import SqlGateway.Proofs.Condition.Literals
import SqlGateway.Proofs.Condition.Partition
import SqlGateway.Proofs.Condition.Destinations
import SqlGateway.Proofs.Condition.Qualifiers
import SqlGateway.Proofs.JoinQuery.Alike
import SqlGateway.Proofs.JoinQuery.Verbatim
import SqlGateway.Proofs.Join.Resolution
import SqlGateway.Proofs.Join.Header
import SqlGateway.Proofs.Federation.Gathering
import SqlGateway.Proofs.Federation.Verdict
import SqlGateway.Proofs.Connector.Faults
import SqlGateway.Proofs.Warehouse.Causes
import SqlGateway.Proofs.Transactional.Causes
import SqlGateway.Proofs.Gateway.Health
import SqlGateway.Proofs.Connector.Listings
import SqlGateway.Proofs.Warehouse.Listing
import SqlGateway.Proofs.Transactional.Listing
import SqlGateway.Proofs.Gateway.Browsing
import SqlGateway.Proofs.Reference.Replacement
import SqlGateway.Proofs.Reference.Settled
import SqlGateway.Proofs.Reference.Uncovered
import SqlGateway.Proofs.Gateway.Accounting
import SqlGateway.Proofs.Gateway.Telling
import SqlGateway.Proofs.Http.Layers
import SqlGateway.Proofs.Http.Envelope
import SqlGateway.Proofs.Reference.Pass
import SqlGateway.Proofs.Reference.OnePass
import SqlGateway.Proofs.Reference.Agreement
import SqlGateway.Proofs.Token.PlainNames
import SqlGateway.Proofs.JoinQuery.PlainNames
import SqlGateway.Proofs.JoinQuery.Rejected
import SqlGateway.Proofs.Join.Symmetry
import SqlGateway.Proofs.Result.Numbering
import SqlGateway.Proofs.Binary64.Order
import SqlGateway.Proofs.Warehouse.Paging
import SqlGateway.Proofs.Warehouse.Rounds
import SqlGateway.Proofs.Warehouse.Expiry
import SqlGateway.Proofs.Warehouse.Polling
import SqlGateway.Proofs.SchemaMap.Order
import SqlGateway.Proofs.Fault.Outcomes
import SqlGateway.Proofs.Connector.SchemaMaps
import SqlGateway.Proofs.Snapshot.Reading
import SqlGateway.Proofs.Snapshot.Expiry
import SqlGateway.Proofs.Gateway.Storing
import SqlGateway.Proofs.Value.Carried
import SqlGateway.Proofs.Http.Correlation
import SqlGateway.Proofs.Http.Tally
