import Beacon.Failure
import Beacon.Http.Framing
import Beacon.Body
import Beacon.Log.Event

/-!
# The client

A client sends one request on a connection of its own and reads the response. An exchange fails
when nobody can be connected to, when no answer comes in time, when the request cannot be built
or when the response cannot be read. Connecting comes before building.
-/

namespace Beacon.Client

open Http

/-- The time that an exchange may take unless told otherwise. -/
def defaultLimit : Duration := .ofSeconds 5

/-- What answers at the other end of a connection. -/
inductive Peer where
  /-- Nothing is ever answered. -/
  | silent
  /-- The request is answered by octets, and the connection is closed after them. -/
  | answers (respond : Octets → Octets)

structure Reply where
  status : Status
  contentType : Option String
  body : Octets
  deriving DecidableEq

def Reply.text (reply : Reply) : String :=
  Utf8.display reply.body

/-! ## Requests -/

def sendingEvent (method : Method) (path : String) : Log.Event :=
  ⟨.debug, .client, "sending request", [("method", .printed method.name), ("path", .text path)]⟩

/-- The request for a target, with the one header that is sent along. -/
def requestFor (method : Method) (path : String) (grammar : Target.Grammar := .strict) :
    Except ClientError Request :=
  match Target.parse (Utf8.octets path) grammar with
  | .ok target => .ok ⟨method, target, [.ofText "host" "localhost"]⟩
  | .error fault => .error (.request ("failed to build request: " ++ fault.message))

/-! ## Responses -/

/-- Reads the head of the response that is final: those that announce another one are skipped.
Every head takes at least one octet, so their number is bounded by that of the octets. -/
def readHead (method : Method) : Nat → Octets → Except String (ResponseHead × Framing × Octets)
  | 0, _ => .error "connection closed before message completed"
  | fuel + 1, octets =>
      match ResponseHead.read octets with
      | .more => .error "connection closed before message completed"
      | .refused fault => .error fault.message
      | .done head rest =>
          match Framing.ofResponse method head with
          | .error fault => .error fault.message
          | .ok (some framing) => .ok (head, framing, rest)
          | .ok none => readHead method fuel rest

/-- The kind of a body, if it is stated in visible characters. -/
def contentType? (headers : List Header) : Option String :=
  match firstValue? Header.contentType headers with
  | some value => if value.all Header.isPlainOctet then some (asciiText value) else none
  | none => none

/-- Reads the response to a method from all octets that came. -/
def receive (method : Method) (octets : Octets) : Except ClientError Reply :=
  match readHead method (octets.length + 1) octets with
  | .error reason => .error (.request ("request failed: " ++ reason))
  | .ok (head, framing, rest) =>
      match framing.readBody rest with
      | some (body, _) => .ok ⟨head.status, contentType? head.headers, body⟩
      | none =>
          .error (.request "failed to read response body: error reading a body from connection")

/-! ## Exchanges -/

/-- An exchange: its result, the octets that were sent, and the events reported. -/
structure Exchange (α : Type) where
  result : Except ClientError α
  sent : Option Octets
  events : List Log.Event

def Exchange.andThen {α β : Type} (exchange : Exchange α) (next : α → Except ClientError β) :
    Exchange β :=
  { exchange with result := exchange.result.bind next }

/-- Sends a request for a target to what was connected to at an address. -/
def request (address : Address) (limit : Duration) (connected : Except SystemError Peer)
    (method : Method) (path : String) (grammar : Target.Grammar := .strict) : Exchange Reply :=
  match connected with
  | .error source => ⟨.error (.connect address source), none, []⟩
  | .ok peer =>
      if limit.nanos = 0 then ⟨.error (.timeout address limit), none, []⟩
      else
        let events := [sendingEvent method path]
        match requestFor method path grammar with
        | .error failure => ⟨.error failure, none, events⟩
        | .ok request =>
            let sent := RequestHead.write request
            match peer with
            | .silent => ⟨.error (.timeout address limit), some sent, events⟩
            | .answers respond => ⟨receive method (respond sent), some sent, events⟩

def expectOk (reply : Reply) : Except ClientError Reply :=
  if reply.status = .ok then .ok reply else .error (.status reply.status)

def expectBody {α : Type} (label : String) (decode : Octets → Except Json.Fault α)
    (reply : Reply) : Except ClientError α :=
  match decode reply.body with
  | .ok value => .ok value
  | .error fault => .error (.parse (label ++ ": " ++ fault.message reply.body))

def health (address : Address) (limit : Duration) (connected : Except SystemError Peer) :
    Exchange Health :=
  ((request address limit connected .get "/health").andThen expectOk).andThen
    (expectBody "health" Health.decode)

def info (address : Address) (limit : Duration) (connected : Except SystemError Peer) :
    Exchange Info :=
  ((request address limit connected .get "/").andThen expectOk).andThen
    (expectBody "info" Info.decode)

/-! ## Calls -/

inductive Call where
  | health
  | info
  | request (method : Method) (path : String) (grammar : Target.Grammar := .strict)

inductive Called where
  | health (value : Health)
  | info (value : Info)
  | reply (value : Reply)

def call (address : Address) (limit : Duration) (connected : Except SystemError Peer) :
    Call → Exchange Called
  | .health => (health address limit connected).andThen fun value => .ok (.health value)
  | .info => (info address limit connected).andThen fun value => .ok (.info value)
  | .request method path grammar =>
      (request address limit connected method path grammar).andThen fun value => .ok (.reply value)

end Beacon.Client
