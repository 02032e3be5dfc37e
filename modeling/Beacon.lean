import Beacon.Application
import Beacon.Body
import Beacon.Client
import Beacon.CommandLine.Page
import Beacon.CommandLine.Read
import Beacon.Config
import Beacon.Daemon.Basic
import Beacon.Daemon.Phase
import Beacon.Daemon.Settle
import Beacon.Daemon.Step
import Beacon.Endpoint
import Beacon.Failure
import Beacon.Fixture
import Beacon.Host.FileSystem
import Beacon.Host.Network
import Beacon.Host.SystemError
import Beacon.Host.Tools
import Beacon.Http.Connection
import Beacon.Http.Framing
import Beacon.Http.Head
import Beacon.Http.Message
import Beacon.Http.Method
import Beacon.Http.RequestHead
import Beacon.Http.ResponseHead
import Beacon.Http.Router
import Beacon.Http.Status
import Beacon.Http.Target
import Beacon.Json.Fault
import Beacon.Json.Number
import Beacon.Json.Shortest
import Beacon.Json.Skip
import Beacon.Json.Struct
import Beacon.Json.Text
import Beacon.Log.Event
import Beacon.Log.Filter
import Beacon.Log.Line
import Beacon.Log.Pattern
import Beacon.Main
import Beacon.Program
import Beacon.Proofs.Text.Utf8
import Beacon.Requests
import Beacon.Service
import Beacon.Session
import Beacon.Text.Alphanumeric
import Beacon.Text.Blank
import Beacon.Text.Decimal
import Beacon.Text.Duration
import Beacon.Text.Quoted
import Beacon.Text.Similarity
import Beacon.Text.Utf8
import Beacon.Text.Visible
import Beacon.Transport
import Beacon.Proofs.Http.Target
import Beacon.Proofs.Http.Method
import Beacon.Proofs.Routing
import Beacon.Proofs.Json.Struct
import Beacon.Proofs.Http.MessageHead
import Beacon.Proofs.Http.Exchange
import Beacon.Proofs.Labels
import Beacon.Proofs.Endpoint
import Beacon.Daemon.Custody
import Beacon.Proofs.Daemon.Custody
import Beacon.Proofs.SocketFiles
import Beacon.Proofs.Daemon.Progress
import Beacon.Proofs.Daemon.Listeners
import Beacon.Proofs.Daemon.Standing
import Beacon.Proofs.PhaseHistory
import Beacon.Proofs.Release
import Beacon.Proofs.StopRequests
import Beacon.Proofs.Json.Compact
import Beacon.Proofs.Bodies
import Beacon.Proofs.Requests
import Beacon.Proofs.Accounting
import Beacon.Proofs.Daemon.Watchers
import Beacon.Proofs.Triggers
import Beacon.Proofs.Http.Wire
import Beacon.Proofs.Answers
import Beacon.Proofs.Exchanges
import Beacon.Proofs.Refinement
import Beacon.Proofs.Json.Grammar
import Beacon.Proofs.Json.Number
import Beacon.Proofs.Json.Spelling
import Beacon.Proofs.Json.Skip
import Beacon.Proofs.Json.Record
import Beacon.Proofs.Decoding
import Beacon.Proofs.Configuration
import Beacon.Proofs.Daemon.Footing
import Beacon.Proofs.Serving
import Beacon.Proofs.Probing
import Beacon.Proofs.Truncation
import Beacon.Proofs.Checking
import Beacon.Proofs.Leftovers
import Beacon.Proofs.Exits
import Beacon.Proofs.Settling
import Beacon.Proofs.Ports
import Beacon.Proofs.Host.Obstacles
import Beacon.Proofs.Binding
import Beacon.Proofs.BindFailures
import Beacon.Proofs.Environments
import Beacon.Proofs.Arrivals
import Beacon.Proofs.RequestLog
import Beacon.Proofs.Text.Quoted
import Beacon.Proofs.RefusedPorts
