import Gateway.AccessLog
import Gateway.Agenda
import Gateway.AllowedMethods
import Gateway.Answer
import Gateway.Backend
import Gateway.Base64
import Gateway.BodyLimit
import Gateway.ByteSize
import Gateway.ClientRequest
import Gateway.Config.Blocks
import Gateway.Config.Load
import Gateway.Config.Tree
import Gateway.Context
import Gateway.ContextFamily
import Gateway.Credentials
import Gateway.Duration
import Gateway.Endpoint
import Gateway.Error
import Gateway.ErrorHandling
import Gateway.ErrorPage
import Gateway.FanIn
import Gateway.Form
import Gateway.Group
import Gateway.Http.HeaderMap
import Gateway.Http.Message
import Gateway.Http.Token
import Gateway.Http.Uri
import Gateway.Introspection.Claims
import Gateway.Introspection.Exchange
import Gateway.Introspection.Interleaving
import Gateway.Introspection.Run
import Gateway.Introspection.World
import Gateway.Json.Basic
import Gateway.Json.Parser
import Gateway.Json.Printer
import Gateway.LockTable
import Gateway.Number.Binary64
import Gateway.Number.Shortest
import Gateway.Policy
import Gateway.Producer
import Gateway.Proofs.Addresses
import Gateway.Proofs.Agenda
import Gateway.Proofs.AllowedMethods
import Gateway.Proofs.Base64
import Gateway.Proofs.BodyLimits
import Gateway.Proofs.BodyReferences
import Gateway.Proofs.Buffering
import Gateway.Proofs.Credentials
import Gateway.Proofs.ErrorDispatch
import Gateway.Proofs.Evaluation
import Gateway.Proofs.Expressions
import Gateway.Proofs.FailClosed
import Gateway.Proofs.Filling
import Gateway.Proofs.FormCoding
import Gateway.Proofs.Forwarding
import Gateway.Proofs.Gathering
import Gateway.Proofs.Groups
import Gateway.Proofs.HeaderSafety
import Gateway.Proofs.HeaderValues
import Gateway.Proofs.Headers
import Gateway.Proofs.Injection
import Gateway.Proofs.Introspection.Answers
import Gateway.Proofs.Introspection.CorruptEntries
import Gateway.Proofs.Introspection.Discipline
import Gateway.Proofs.Introspection.Endpoints
import Gateway.Proofs.Introspection.Entries
import Gateway.Proofs.Introspection.Failures
import Gateway.Proofs.Introspection.Fetching
import Gateway.Proofs.Introspection.Flight
import Gateway.Proofs.Introspection.Frames
import Gateway.Proofs.Introspection.Freshness
import Gateway.Proofs.Introspection.Isolation
import Gateway.Proofs.Introspection.Lanes
import Gateway.Proofs.Introspection.Lifetimes
import Gateway.Proofs.Introspection.Mirror
import Gateway.Proofs.Introspection.Moves
import Gateway.Proofs.Introspection.Program
import Gateway.Proofs.Introspection.Rounds
import Gateway.Proofs.Introspection.Scheduling
import Gateway.Proofs.Introspection.Sessions
import Gateway.Proofs.Introspection.SingleFlight
import Gateway.Proofs.Introspection.Traces
import Gateway.Proofs.JsonPages
import Gateway.Proofs.JsonText
import Gateway.Proofs.Locks
import Gateway.Proofs.Maps
import Gateway.Proofs.Markup
import Gateway.Proofs.Operations
import Gateway.Proofs.Placeholders
import Gateway.Proofs.PlainRequests
import Gateway.Proofs.Redaction
import Gateway.Proofs.Rendering
import Gateway.Proofs.Replacement
import Gateway.Proofs.RequestIds
import Gateway.Proofs.Rewriting
import Gateway.Proofs.Serving
import Gateway.Proofs.Stages
import Gateway.Proofs.Store
import Gateway.Proofs.Substitution
import Gateway.Proofs.TimedMap
import Gateway.Proofs.Transparency
import Gateway.Proofs.Utf8
import Gateway.Proofs.WireForms
import Gateway.Proxy
import Gateway.Redacted
import Gateway.Route
import Gateway.Scope
import Gateway.Service
import Gateway.SideRequest
import Gateway.SortedMap
import Gateway.Store
import Gateway.Template
import Gateway.Text.Blank
import Gateway.Text.Category
import Gateway.Text.Composition
import Gateway.Text.Normal
import Gateway.Text.Quoted
import Gateway.Text.Search
import Gateway.Text.Table
import Gateway.Text.Utf8
import Gateway.Transport
import Gateway.Tunnel
import Gateway.Url.Address
import Gateway.Url.Domain
import Gateway.Url.Domain.Direction
import Gateway.Url.Domain.Joining
import Gateway.Url.Domain.Mapping
import Gateway.Url.Host
import Gateway.Url.Punycode
import Gateway.Yaml.Cursor
import Gateway.Yaml.Document
import Gateway.Yaml.Node
import Gateway.Yaml.Node.Grammar
import Gateway.Yaml.Token
import Gateway.Yaml.Token.Layout
import Gateway.Yaml.Token.Lexer
import Gateway.Yaml.Token.Property
import Gateway.Yaml.Token.Scalar
import Gateway.Proofs.ContextFamily
import Gateway.Proofs.Sweeping
import Gateway.Proofs.BodySharing
import Gateway.Proofs.SideRequests
import Gateway.Proofs.ByteSizes
import Gateway.Proofs.MethodChecks
import Gateway.Proofs.Rounding
import Gateway.Proofs.SizeRange
import Gateway.Proofs.Trimming
