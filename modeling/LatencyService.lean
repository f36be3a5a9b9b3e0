import LatencyService.Address.Listen
import LatencyService.Address.Socket
import LatencyService.Client.Call
import LatencyService.Client.Wire
import LatencyService.CommandLine.Arguments
import LatencyService.CommandLine.Launch
import LatencyService.Config.Loading
import LatencyService.Config.Overrides
import LatencyService.Config.Settings
import LatencyService.Config.Validation
import LatencyService.Envelope.Header
import LatencyService.Envelope.Inbound
import LatencyService.Envelope.Payload
import LatencyService.Envelope.Reply
import LatencyService.Http.Dispatch
import LatencyService.Http.Extraction
import LatencyService.Http.Identifier
import LatencyService.Http.MediaType
import LatencyService.Http.Message
import LatencyService.Http.Problem
import LatencyService.Http.Route
import LatencyService.Http.Status
import LatencyService.Http.Wire
import LatencyService.Idna.Composition
import LatencyService.Idna.Domain
import LatencyService.Idna.Mapping
import LatencyService.Idna.Properties
import LatencyService.Idna.Punycode
import LatencyService.Json.Container
import LatencyService.Json.Fault
import LatencyService.Json.Lexeme
import LatencyService.Json.Printer
import LatencyService.Json.Skip
import LatencyService.Main
import LatencyService.Number.Binary64
import LatencyService.Number.Shortest
import LatencyService.Observability.Event
import LatencyService.Observability.Filter
import LatencyService.Observability.Level
import LatencyService.Observability.Line
import LatencyService.Observability.Metrics
import LatencyService.Operation.BusyLoop
import LatencyService.Operation.Elapsed
import LatencyService.Outbound.Backend
import LatencyService.Outbound.Call
import LatencyService.Outbound.Charset
import LatencyService.Outbound.Relay
import LatencyService.Proofs.Accounts
import LatencyService.Proofs.Addresses
import LatencyService.Proofs.Alike
import LatencyService.Proofs.Answer
import LatencyService.Proofs.Asking
import LatencyService.Proofs.Beginning
import LatencyService.Proofs.Beside
import LatencyService.Proofs.BusyLoop
import LatencyService.Proofs.Bystander
import LatencyService.Proofs.Calling
import LatencyService.Proofs.Carrying
import LatencyService.Proofs.Closing
import LatencyService.Proofs.Constraints
import LatencyService.Proofs.Counters
import LatencyService.Proofs.Counting
import LatencyService.Proofs.Demands
import LatencyService.Proofs.Documents
import LatencyService.Proofs.Echo
import LatencyService.Proofs.Effects
import LatencyService.Proofs.Elapsed
import LatencyService.Proofs.Entries
import LatencyService.Proofs.Envelopes
import LatencyService.Proofs.Extents
import LatencyService.Proofs.Fate
import LatencyService.Proofs.Happening
import LatencyService.Proofs.History
import LatencyService.Proofs.Identifiers
import LatencyService.Proofs.Isolation
import LatencyService.Proofs.Keeping
import LatencyService.Proofs.Layers
import LatencyService.Proofs.Ledger
import LatencyService.Proofs.Lenience
import LatencyService.Proofs.Locality
import LatencyService.Proofs.Lockstep
import LatencyService.Proofs.Logging
import LatencyService.Proofs.Mail
import LatencyService.Proofs.Members
import LatencyService.Proofs.Numerals
import LatencyService.Proofs.Orders
import LatencyService.Proofs.Outcomes
import LatencyService.Proofs.Overlay
import LatencyService.Proofs.Pace
import LatencyService.Proofs.Passage
import LatencyService.Proofs.Passing
import LatencyService.Proofs.Problems
import LatencyService.Proofs.Questions
import LatencyService.Proofs.Receivers
import LatencyService.Proofs.Rejection
import LatencyService.Proofs.Relays
import LatencyService.Proofs.Replacement
import LatencyService.Proofs.Replies
import LatencyService.Proofs.Retelling
import LatencyService.Proofs.RoundTrip
import LatencyService.Proofs.Serving
import LatencyService.Proofs.Signals
import LatencyService.Proofs.Simulation
import LatencyService.Proofs.Sleep
import LatencyService.Proofs.Spans
import LatencyService.Proofs.Spelling
import LatencyService.Proofs.Steady
import LatencyService.Proofs.Steps
import LatencyService.Proofs.Sweep
import LatencyService.Proofs.Target
import LatencyService.Proofs.Telling
import LatencyService.Proofs.Timeout
import LatencyService.Proofs.Twin
import LatencyService.Proofs.Validated
import LatencyService.Proofs.Waiting
import LatencyService.Proofs.Wakeup
import LatencyService.Proofs.Writing
import LatencyService.Schema.Misfit
import LatencyService.Schema.Record
import LatencyService.Schema.Shape
import LatencyService.Session.Live
import LatencyService.Session.Scenario
import LatencyService.Session.Service
import LatencyService.Session.Task
import LatencyService.Shutdown.Basic
import LatencyService.Shutdown.Broadcast
import LatencyService.Shutdown.Interleaving
import LatencyService.Text.Affix
import LatencyService.Text.Ascii
import LatencyService.Text.Base64
import LatencyService.Text.Blank
import LatencyService.Text.CodeRanges
import LatencyService.Text.Octets
import LatencyService.Text.Pieces
import LatencyService.Text.Quoted
import LatencyService.Text.Similarity
import LatencyService.Toml.Decode
import LatencyService.Toml.Document
import LatencyService.Toml.Lexeme
import LatencyService.Toml.Node
import LatencyService.Toml.Scalar
import LatencyService.Toml.Value
import LatencyService.Tree
import LatencyService.Url.Basic
import LatencyService.Url.Host
import LatencyService.Url.Percent
import LatencyService.Url.Reader
