import Beacon.Client
import Beacon.Daemon.Phase
import Beacon.Endpoint
import Beacon.Http.Connection

/-!
# Daemons

A daemon binds endpoints and serves them until a trigger ends the serving. Serving is a call of
its own with two parties: the call itself, which announces phases, accepts connections, and
releases the endpoint; and a watcher, which waits for the trigger, announces the shutdown and
hands the trigger over. Several calls may be under way at once. Each party is taken apart into
steps between which others may act.
-/

namespace Beacon

inductive Stage where
  /-- The endpoint is still to be bound. -/
  | binding
  /-- The endpoint is there; nothing is announced yet. -/
  | entering
  /-- The phase `bound` is announced. -/
  | announced
  /-- The phase `serving` is announced; connections are not accepted yet. -/
  | opening
  /-- Connections are accepted, and the watcher is at work. -/
  | accepting
  /-- The listener is closed. -/
  | closed
  /-- The socket file is unlinked. -/
  | released
  /-- The phase `shuttingDown` is announced. -/
  | leaving
  /-- The phase `stopped` is announced. -/
  | left
  /-- The end is reported; the trigger is still to be taken over. -/
  | reported
  | returned (result : Except DaemonError Trigger)
  /-- The call was cancelled; its endpoint has ended. -/
  | cancelled

/-- Whether a call still owns a listener. -/
def Stage.isOpen : Stage → Bool
  | .entering | .announced | .opening | .accepting => true
  | _ => false

def Stage.ownsFile : Stage → Bool
  | .closed => true
  | stage => stage.isOpen

def Stage.isOver : Stage → Bool
  | .returned _ | .cancelled => true
  | _ => false

/-- How far the watcher of a serving call has come. -/
inductive Watcher where
  /-- The accept loop has not been entered, so there is none. -/
  | absent
  | waiting
  /-- The shutdown is reported. -/
  | reported (trigger : Trigger)
  /-- The phase `shuttingDown` is announced. -/
  | announced (trigger : Trigger)
  /-- The trigger is handed over. -/
  | handed (trigger : Trigger)
  /-- The interrupt has panicked, and the watcher is gone without a word. -/
  | lost
  deriving DecidableEq, Repr

/-- What a call gets from its watcher once that is at its end. A watcher that is lost hands nothing
over, and the call falls back on a stop request. -/
def Watcher.answer? : Watcher → Option Trigger
  | .handed trigger => some trigger
  | .lost => some .requested
  | _ => none

structure Task where
  endpoint : Option Endpoint
  stage : Stage
  watcher : Watcher
  /-- What the interrupt given to the call has come to, if it has. -/
  interrupt : Option Trigger
  /-- What has broken off the accepting of connections, if something has. -/
  failure : Option SystemError
  /-- Whether the call is to be cancelled when it is next looked at. -/
  aborting : Bool

/-- What a call comes to once everything is released: the failure of its accepting, or else the
trigger that it gets from its watcher. What its guard has found is no part of it. -/
def Task.verdict? (task : Task) : Option (Except DaemonError Trigger) :=
  match task.failure with
  | some fault => some (.error (.serve fault))
  | none => task.watcher.answer?.map .ok

/-- A daemon with the host it works on and everything that it has done. -/
structure Daemon where
  config : Config
  identity : Identity
  sink : Sink
  phase : Phase
  /-- The phases that were announced, in order. -/
  published : List Phase
  /-- How many bind calls have an endpoint that they are still to announce. -/
  unannounced : Nat
  /-- Whether a stop was requested; it stays so. -/
  stopRequested : Bool
  tasks : List Task
  host : Host
  log : List Log.Event
  /-- The socket files that the system was asked to unlink at the end of their endpoints. -/
  unlinked : List SocketFile

namespace Daemon

def create (config : Config) (identity : Identity) (sink : Sink) (host : Host) : Daemon :=
  ⟨config, identity, sink, .unstarted, [], 0, false, [], host, [], []⟩

def service (d : Daemon) : Service :=
  .ofConfig d.identity d.config

def report (d : Daemon) (events : List Log.Event) : Daemon :=
  { d with log := d.log ++ events }

/-! ## Phases -/

def phaseEvent (before after : Phase) : Log.Event :=
  ⟨.debug, .daemon, "phase change", [("from", .printed before.name), ("to", .printed after.name)]⟩

/-- Announces a phase: it is published unless the daemon has come as far already. -/
def announce (d : Daemon) (next : Phase) : Daemon :=
  if d.phase.rank < next.rank then
    { d with
      phase := next
      published := d.published ++ [next]
      log := d.log ++ [phaseEvent d.phase next] }
  else d

/-! ## Binding -/

def bindingEvent (d : Daemon) : Log.Event :=
  ⟨.info, .daemon, "binding listener",
    [("service", .text d.identity.name), ("transport", .printed d.config.transport.text)]⟩

def bindFailedEvent (d : Daemon) (failure : BindError) : Log.Event :=
  ⟨.error, .daemon, "bind failed",
    [("service", .text d.identity.name), ("error", .printed failure.message)]⟩

/-- Binds an endpoint for the configured transport, which is not announced yet. -/
def bindUnannounced (d : Daemon) : Except BindError Endpoint × Daemon :=
  let attempt := bindTransport d.host d.config.transport
  let reported := { d.report (d.bindingEvent :: attempt.events) with host := attempt.host }
  match attempt.result with
  | .ok endpoint => (.ok endpoint, reported)
  | .error failure => (.error failure, reported.report [d.bindFailedEvent failure])

/-- Binds an endpoint for the configured transport, and announces it. A failure announces
nothing. -/
def bind (d : Daemon) : Except BindError Endpoint × Daemon :=
  match d.bindUnannounced with
  | (.ok endpoint, bound) => (.ok endpoint, bound.announce .bound)
  | (.error failure, after) => (.error failure, after)

def bindAt (d : Daemon) (transport : Transport) : Except BindError Endpoint × Daemon :=
  let attempt := bindTransport d.host transport
  (attempt.result, { d.report attempt.events with host := attempt.host })

/-! ## Serving calls -/

def serve (d : Daemon) (endpoint : Endpoint) : Daemon :=
  { d with tasks := d.tasks ++ [⟨some endpoint, .entering, .absent, none, none, false⟩] }

/-- Starts to bind and serve. -/
def run (d : Daemon) : Daemon :=
  { d with tasks := d.tasks ++ [⟨none, .binding, .absent, none, none, false⟩] }

/-- Requests a stop, of calls under way as of those still to come. -/
def requestStop (d : Daemon) : Daemon :=
  { d with stopRequested := true }

def updateTask (d : Daemon) (i : Nat) (change : Task → Task) : Daemon :=
  { d with tasks := d.tasks.modify i change }

def setStage (d : Daemon) (i : Nat) (stage : Stage) : Daemon :=
  d.updateTask i fun task => { task with stage := stage }

def setWatcher (d : Daemon) (i : Nat) (watcher : Watcher) : Daemon :=
  d.updateTask i fun task => { task with watcher := watcher }

/-- Lets the interrupt of a serving call come, unless one has come already. -/
def interrupt (d : Daemon) (i : Nat) (trigger : Trigger) : Daemon :=
  d.updateTask i fun task => { task with interrupt := some (task.interrupt.getD trigger) }

/-! ## Requests -/

def isServed (d : Daemon) (listener : Listener) : Bool :=
  d.tasks.any fun task =>
    match task.stage, task.endpoint with
    | .accepting, some endpoint => endpoint.listener == listener
    | _, _ => false

/-- Serves a connection on which octets come: the answers, and the daemon with their records. -/
def serveOctets (d : Daemon) (octets : Octets) : Http.Traffic × Daemon :=
  let traffic := Http.serveConnection d.service octets
  let recorded := d.sink.recordAll traffic.records
  (traffic, { d.report recorded.2 with sink := recorded.1 })

def serveWaiting (d : Daemon) (listener : Listener) : Daemon :=
  let waiting := d.host.waitingAt listener
  let accepted := { d with host := d.host.accept listener }
  waiting.foldl (fun d octets => (d.serveOctets octets).2) accepted

/-- What a client finds at an address: the daemon answers where a call accepts connections, and
elsewhere a connection waits. -/
def peerAt (d : Daemon) (address : Address) : Except SystemError (Listener × Client.Peer) :=
  match d.host.reach address with
  | .error fault => .error fault
  | .ok listener =>
      if d.isServed listener then
        .ok (listener, .answers fun octets => (Http.serveConnection d.service octets).octets)
      else .ok (listener, .silent)

/-- Takes what a client has sent to a listener: it is served at once or waits. -/
def deliver (d : Daemon) (listener : Listener) (sent : Octets) : Daemon :=
  if d.isServed listener then (d.serveOctets sent).2
  else { d with host := d.host.wait listener sent }

/-- Takes what an exchange has sent to what was found at its address. -/
def receive {α : Type} (d : Daemon) (found : Except SystemError (Listener × Client.Peer))
    (exchange : Client.Exchange α) : Daemon :=
  match found, exchange.sent with
  | .ok (listener, _), some sent => d.deliver listener sent
  | _, _ => d

/-- Lets a client of another process make an exchange, which leaves no events here. -/
def visit {α : Type} (d : Daemon) (address : Address)
    (exchange : Except SystemError Client.Peer → Client.Exchange α) :
    Client.Exchange α × Daemon :=
  let found := d.peerAt address
  let made := exchange (found.map (·.2))
  (made, d.receive found made)

def call (d : Daemon) (address : Address) (limit : Duration) (call : Client.Call) :
    Except ClientError Client.Called × Daemon :=
  let found := d.peerAt address
  let made := Client.call address limit (found.map (·.2)) call
  (made.result, (d.report made.events).receive found made)

end Daemon

end Beacon
