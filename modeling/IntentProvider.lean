import IntentProvider.Callback.Context
import IntentProvider.Callback.Dispatch
import IntentProvider.Callback.Envelope
import IntentProvider.Callback.Handler
import IntentProvider.Catalogue.Address
import IntentProvider.Catalogue.Basic
import IntentProvider.Catalogue.Declaration
import IntentProvider.Catalogue.Kind
import IntentProvider.Catalogue.Name
import IntentProvider.Catalogue.Plural
import IntentProvider.Catalogue.Signature
import IntentProvider.Config.Basic
import IntentProvider.Config.Text
import IntentProvider.Decimal.Shortest
import IntentProvider.DomainName.Basic
import IntentProvider.DomainName.Composition
import IntentProvider.DomainName.Direction
import IntentProvider.DomainName.Joining
import IntentProvider.DomainName.Punycode
import IntentProvider.DomainName.Replacement
import IntentProvider.Engine.Client
import IntentProvider.Entity.Basic
import IntentProvider.Error.Failure
import IntentProvider.Error.Invocation
import IntentProvider.Http.Failure
import IntentProvider.Http.Headers
import IntentProvider.Http.Host
import IntentProvider.Http.Ipv4
import IntentProvider.Http.Ipv6
import IntentProvider.Http.Message
import IntentProvider.Http.Path
import IntentProvider.Http.Request
import IntentProvider.Http.Url
import IntentProvider.Json.Number
import IntentProvider.Json.Tree
import IntentProvider.Json.Value
import IntentProvider.Json.Wire
import IntentProvider.Map.Ordered
import IntentProvider.Map.Sorted
import IntentProvider.Program.Effect
import IntentProvider.Program.Script
import IntentProvider.Provider.Assembly
import IntentProvider.Provider.Basic
import IntentProvider.Provider.Descriptor
import IntentProvider.Provider.Identity
import IntentProvider.Provider.Registration
import IntentProvider.Security.Credential
import IntentProvider.Security.Gateway
import IntentProvider.Server.Basic
import IntentProvider.Server.Route
import IntentProvider.Server.Table
import IntentProvider.Store.Call
import IntentProvider.Store.Entity
import IntentProvider.Store.Memory
import IntentProvider.Task.Basic
import IntentProvider.Task.Mode
import IntentProvider.Task.Schema
import IntentProvider.Text.Base64
import IntentProvider.Text.Blank
import IntentProvider.Text.CodePoints
import IntentProvider.Text.Glyph
import IntentProvider.Text.Invisible
import IntentProvider.Text.Percent
import IntentProvider.Text.Quoted
import IntentProvider.Text.Radix
import IntentProvider.Text.Split
import IntentProvider.Time.Instant
import IntentProvider.Time.Rfc3339
import IntentProvider.Toml.Document
import IntentProvider.Toml.Node
import IntentProvider.Toml.Token
import IntentProvider.Trace.Context
import IntentProvider.Proofs.Map.Ordered
import IntentProvider.Proofs.Store.Memory
import IntentProvider.Proofs.Task.Operation
import IntentProvider.Proofs.Task.Lifecycle
import IntentProvider.Proofs.Store.History
import IntentProvider.Proofs.Task.Race
import IntentProvider.Proofs.Catalogue.Advertised
import IntentProvider.Proofs.Catalogue.Address
import IntentProvider.Proofs.Catalogue.Stored
import IntentProvider.Proofs.Provider.Assembly
import IntentProvider.Proofs.Provider.Operation
import IntentProvider.Proofs.Provider.Served
import IntentProvider.Proofs.Catalogue.Kinds
import IntentProvider.Proofs.Provider.WellFormed
import IntentProvider.Proofs.Provider.Rejection
import IntentProvider.Proofs.Provider.Wiring
import IntentProvider.Proofs.Callback.Boundary
import IntentProvider.Proofs.Program.Exchange
import IntentProvider.Proofs.Program.World
import IntentProvider.Proofs.Task.Course
import IntentProvider.Proofs.Engine.Call
import IntentProvider.Proofs.Task.Addressee
import IntentProvider.Proofs.Provider.Identity
import IntentProvider.Proofs.Provider.Retry
import IntentProvider.Proofs.Task.Ownership
import IntentProvider.Proofs.Catalogue.Wire
import IntentProvider.Proofs.Engine.Endpoint
import IntentProvider.Proofs.Entity.Wire
import IntentProvider.Proofs.Provider.Wire
import IntentProvider.Proofs.Task.Recovery
import IntentProvider.Proofs.Text.Radix
import IntentProvider.Proofs.Trace.Propagation
import IntentProvider.Proofs.Server.Snapshot
import IntentProvider.Proofs.Http.Request
import IntentProvider.Proofs.Http.Directory
import IntentProvider.Proofs.Engine.Operation
import IntentProvider.Proofs.Program.Concurrent
import IntentProvider.Proofs.Callback.Outbound
import IntentProvider.Proofs.Store.Frame
import IntentProvider.Proofs.Catalogue.Lookup
import IntentProvider.Proofs.Task.Visibility
import IntentProvider.Proofs.Callback.Status
import IntentProvider.Proofs.Json.Place
import IntentProvider.Proofs.Task.Marking
import IntentProvider.Proofs.Task.Repair
import IntentProvider.Proofs.Security.Failure
import IntentProvider.Proofs.Callback.Permission
import IntentProvider.Proofs.Catalogue.Declaration
import IntentProvider.Proofs.Trace.Grammar
import IntentProvider.Proofs.Provider.Routed
import IntentProvider.Proofs.Catalogue.Arrival
import IntentProvider.Proofs.Config.EngineUrl
import IntentProvider.Proofs.Provider.Distinct
import IntentProvider.Proofs.Map.Merge
import IntentProvider.Proofs.Store.Patch
import IntentProvider.Proofs.Json.Lexeme
import IntentProvider.Proofs.Json.Grammar
import IntentProvider.Proofs.Callback.Presentation
import IntentProvider.Proofs.Text.Utf8
import IntentProvider.Proofs.Text.Sequence
import IntentProvider.Proofs.Text.Received
import IntentProvider.Proofs.Text.Decimal
import IntentProvider.Proofs.Catalogue.ErrorCode
import IntentProvider.Proofs.Catalogue.Plural
