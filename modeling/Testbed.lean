import Testbed.Channel
import Testbed.Config.Log
import Testbed.Config.Timeout
import Testbed.Contract.Equality
import Testbed.Contract.Factory
import Testbed.Contract.Sample
import Testbed.Contract.SipHash
import Testbed.Deferred
import Testbed.Duration
import Testbed.Http.Event
import Testbed.Http.EventStream
import Testbed.Http.EventStream.Reader
import Testbed.Http.Exchange
import Testbed.Http.Failure
import Testbed.Http.Framing
import Testbed.Http.Handler
import Testbed.Http.Incoming
import Testbed.Http.Job
import Testbed.Http.Machine
import Testbed.Http.Recorder
import Testbed.Http.Request
import Testbed.Http.Response
import Testbed.Http.Route
import Testbed.Http.Script
import Testbed.Http.Server
import Testbed.Http.Shared
import Testbed.Http.Vigil
import Testbed.Json.Assertion
import Testbed.Json.Compare
import Testbed.Json.Difference
import Testbed.Json.Fault
import Testbed.Json.Location
import Testbed.Json.Numeral
import Testbed.Json.Parser
import Testbed.Json.Printer
import Testbed.Json.Value
import Testbed.Number.Binary64
import Testbed.Number.Shortest
import Testbed.Poll
import Testbed.Proofs.Config.Widening
import Testbed.Proofs.Contract.Coverage
import Testbed.Proofs.Contract.Drawing
import Testbed.Proofs.Contract.Visiting
import Testbed.Proofs.Http.Addressing
import Testbed.Proofs.Http.Anchoring
import Testbed.Proofs.Http.Arrivals
import Testbed.Proofs.Http.Commit
import Testbed.Proofs.Http.Course
import Testbed.Proofs.Http.Delivery
import Testbed.Proofs.Http.Departure
import Testbed.Proofs.Http.Ends
import Testbed.Proofs.Http.EventLines
import Testbed.Proofs.Http.EventStream.Event
import Testbed.Proofs.Http.EventStream.ReadBack
import Testbed.Proofs.Http.HeaderCalls
import Testbed.Proofs.Http.HostHeader
import Testbed.Proofs.Http.LoggedStatus
import Testbed.Proofs.Http.Machine
import Testbed.Proofs.Http.Outcome
import Testbed.Proofs.Http.Reaching
import Testbed.Proofs.Http.Recording
import Testbed.Proofs.Http.RouteRecorder
import Testbed.Proofs.Http.Routing
import Testbed.Proofs.Http.Running
import Testbed.Proofs.Http.Session
import Testbed.Proofs.Http.Snapshot
import Testbed.Proofs.Http.Sparing
import Testbed.Proofs.Http.Stopping
import Testbed.Proofs.Http.Streaming
import Testbed.Proofs.Http.Switching
import Testbed.Proofs.Http.Trace
import Testbed.Proofs.Http.Visits
import Testbed.Proofs.Http.Waiting
import Testbed.Proofs.Json.Amendment
import Testbed.Proofs.Json.Comparison
import Testbed.Proofs.Json.Differences
import Testbed.Proofs.Json.Entries
import Testbed.Proofs.Json.Fields
import Testbed.Proofs.Json.LocationText
import Testbed.Proofs.Json.NumberValue
import Testbed.Proofs.Json.Parsed
import Testbed.Proofs.Json.QuotedText
import Testbed.Proofs.Number.Rounding
import Testbed.Proofs.Pace
import Testbed.Proofs.Polling
import Testbed.Proofs.Receiving
import Testbed.Proofs.Regex.Bare
import Testbed.Proofs.Regex.Compiled
import Testbed.Proofs.Regex.Enclosed
import Testbed.Proofs.Regex.Leaves
import Testbed.Proofs.Regex.Longer.Atoms
import Testbed.Proofs.Regex.Longer.Classes
import Testbed.Proofs.Regex.Longer.Openings
import Testbed.Proofs.Regex.Longer.Readers
import Testbed.Proofs.Regex.Longer.Steps
import Testbed.Proofs.Regex.Matching
import Testbed.Proofs.Regex.Runs
import Testbed.Proofs.Regex.Searching
import Testbed.Proofs.Regex.Spanning
import Testbed.Proofs.Text.Decimal
import Testbed.Proofs.Text.LetterCase
import Testbed.Proofs.Text.OctetOrder
import Testbed.Proofs.Url.Pasted
import Testbed.Proofs.Url.Path
import Testbed.Proofs.Url.Port
import Testbed.Regex.Ast
import Testbed.Regex.Atom
import Testbed.Regex.Basic
import Testbed.Regex.Bracket
import Testbed.Regex.CharSet
import Testbed.Regex.Cursor
import Testbed.Regex.Fault
import Testbed.Regex.Group
import Testbed.Regex.Meaning
import Testbed.Regex.Node
import Testbed.Regex.Parser
import Testbed.Regex.Position
import Testbed.Regex.Program
import Testbed.Regex.Property
import Testbed.Regex.Search
import Testbed.Text.Blank
import Testbed.Text.CodeMap
import Testbed.Text.Hidden
import Testbed.Text.Letters
import Testbed.Text.Quoted
import Testbed.Text.Ranges
import Testbed.Text.Utf8
import Testbed.Tls.Base64
import Testbed.Tls.Certificate
import Testbed.Tls.Curve
import Testbed.Tls.Der
import Testbed.Tls.Digest
import Testbed.Tls.Identity
import Testbed.Tls.Pem
import Testbed.Tls.PrivateKey
import Testbed.Tls.SelfSigned
import Testbed.Url.Address
import Testbed.Url.Basic
import Testbed.Url.Host
import Testbed.Url.Idna
import Testbed.Url.Idna.Composition
import Testbed.Url.Idna.Label
import Testbed.Url.Idna.Mapping
import Testbed.Url.Parser
import Testbed.Url.Path
import Testbed.Url.PercentEncoding
import Testbed.Url.Punycode
