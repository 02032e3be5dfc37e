import Beacon.Daemon.Settle
import Beacon.Host.Tools

/-!
# Sessions

A session drives one daemon by hand: it keeps endpoints under names, lets others change the file
system, starts and ends serving calls, and lets clients call. The daemon is given time only where
the driver itself would have to wait for it.
-/

namespace Beacon

structure Session where
  daemon : Daemon
  /-- The endpoints that nobody serves, by name. -/
  endpoints : List (String × Endpoint)
  /-- The address of the endpoint that was bound or served last. -/
  address : Option Address
  /-- The serving call that was started last and has not been waited for. -/
  current : Option Nat
  /-- The call of the endpoint that was served last, while its interrupt has not been let come. -/
  interruptible : Option Nat
  /-- The calls that bind and serve; they are interrupted by the signals of the system. -/
  runs : List Nat

namespace Session

def start (config : Config) (identity : Identity) (sink : Sink) (host : Host) : Session :=
  ⟨.create config identity sink host, [], none, none, none, []⟩

def host (s : Session) : Host :=
  s.daemon.host

def files (s : Session) : FileSystem :=
  s.host.files

def setHost (s : Session) (host : Host) : Session :=
  { s with daemon := { s.daemon with host := host } }

def settle (s : Session) : Session :=
  { s with daemon := s.daemon.settle }

def takeEvents (s : Session) : List Log.Event × Session :=
  (s.daemon.log, { s with daemon := { s.daemon with log := [] } })

/-! ## Files -/

/-- Lets others change the file system; tells whether the system let them. -/
def meddle (s : Session) (change : FileSystem → Bool × FileSystem) : Bool × Session :=
  let changed := change s.files
  (changed.1, s.setHost { s.host with files := changed.2 })

/-! ## Endpoints -/

def endpoint? (s : Session) (name : String) : Option Endpoint :=
  s.endpoints.lookup name

def forget (s : Session) (name : String) : Session :=
  { s with endpoints := s.endpoints.filter fun entry => entry.1 != name }

def finish (s : Session) (endpoint : Endpoint) : Session :=
  { s with daemon := (s.daemon.dropEndpoint endpoint).2 }

/-- Keeps a new endpoint under a name. One that had the name before ends now. -/
def keep (s : Session) (name : String) (endpoint : Endpoint) : Session :=
  let before := s.endpoint? name
  let kept := { s.forget name with
    endpoints := (name, endpoint) :: (s.forget name).endpoints
    address := some endpoint.address }
  match before with
  | some old => kept.finish old
  | none => kept

def bind (s : Session) (name : String) (transport : Transport) :
    Except BindError Address × Session :=
  match s.daemon.bindAt transport with
  | (.ok endpoint, daemon) => (.ok endpoint.address, { s with daemon := daemon }.keep name endpoint)
  | (.error failure, daemon) => (.error failure, { s with daemon := daemon })

def bindTaken (s : Session) : Except BindError Address × Session :=
  match s.host.listenTcp 0 with
  | .error fault => (.error (.tcp 0 fault), s)
  | .ok (port, taken) =>
      let attempt := bindTcp taken port
      ((attempt.result).map Endpoint.address, s)

def daemonBind (s : Session) (name : String) : Except BindError Address × Session :=
  match s.daemon.bind with
  | (.ok endpoint, daemon) => (.ok endpoint.address, { s with daemon := daemon }.keep name endpoint)
  | (.error failure, daemon) => (.error failure, { s with daemon := daemon })

def drop (s : Session) (name : String) : Option Session :=
  (s.endpoint? name).map fun endpoint => (s.forget name).finish endpoint

/-- Ends the endpoint with a name inside a task that fails. -/
def panic (s : Session) (name : String) : Option Session :=
  (s.drop name).map settle

/-- Ends the Unix endpoint with a name, and tells its path and whether its file was removed. -/
def release (s : Session) (name : String) : Option (Path × Bool × Session) :=
  match s.endpoint? name with
  | some (.unix socket path) =>
      let freed := s.forget name
      let ended := freed.daemon.releaseEndpoint (.unix socket path)
      some (path, ended.1, { freed with daemon := ended.2 })
  | _ => none

/-! ## Serving -/

/-- Waits until the daemon serves, if it has not come as far already. -/
def awaitServing (s : Session) : Session :=
  if s.daemon.phase.rank < Phase.serving.rank then s.settle else s

def serve (s : Session) (name : String) : Option Session :=
  (s.endpoint? name).map fun endpoint =>
    let freed := s.forget name
    let i := freed.daemon.tasks.length
    { freed with
      daemon := freed.daemon.serve endpoint
      address := some endpoint.address
      current := some i
      interruptible := some i }.awaitServing

/-- Starts to bind and serve. The address is known beforehand only if it is a path. -/
def run (s : Session) : Session :=
  let i := s.daemon.tasks.length
  let address :=
    match s.daemon.config.transport with
    | .unix path => some (.unix path)
    | _ => s.address
  { s with
    daemon := s.daemon.run
    address := address
    current := some i
    runs := i :: s.runs }.awaitServing

def stop (s : Session) : Session :=
  { s with daemon := s.daemon.requestStop }

/-- The serving call that was started last and has not been waited for. -/
def task? (s : Session) : Option Task :=
  s.current.bind fun i => s.daemon.tasks[i]?

/-- Whether somebody still waits for the interrupt of a call: its watcher, even after the call was
cancelled, or the call itself before it has one. -/
def awaitsInterrupt (task : Task) : Bool :=
  task.interrupt.isNone &&
    match task.watcher with
    | .absent => !task.stage.isOver
    | .waiting => true
    | _ => false

/-- Lets the interrupt of the endpoint that was served last come, once; tells whether anybody
waited for it. -/
def interrupt (s : Session) (trigger : Trigger) : Option (Bool × Session) :=
  s.interruptible.map fun i =>
    ((s.daemon.tasks[i]?).any awaitsInterrupt,
      { s with daemon := s.daemon.interrupt i trigger, interruptible := none })

def handlesSignals (s : Session) : Bool :=
  !s.runs.isEmpty

/-- Raises a signal of the system: it interrupts every call that binds and serves. -/
def signal (s : Session) (trigger : Trigger) : Session :=
  { s with daemon := s.runs.foldl (fun d i => d.interrupt i trigger) s.daemon }

/-- Asks for the current call to be cancelled when it is next given time. -/
def abort (s : Session) : Option Session :=
  s.current.map fun i =>
    { s with daemon := s.daemon.updateTask i fun task => { task with aborting := true } }

inductive Joined where
  | returned (result : Except DaemonError Trigger)
  | cancelled
  /-- The call goes on for good. -/
  | unfinished

/-- What a stage amounts to for somebody who waits for the end of the call. -/
def Joined.ofStage : Stage → Joined
  | .returned result => .returned result
  | .cancelled => .cancelled
  | _ => .unfinished

/-- Waits for the end of the current call, which is none any more afterwards. -/
def join (s : Session) : Option (Joined × Session) :=
  let settled := s.settle
  (settled.task?).map fun task => (.ofStage task.stage, { settled with current := none })

/-! ## Clients -/

/-- Gives the daemon time if an address can be reached; a refused connection takes none. -/
def approach (s : Session) (address : Address) : Session :=
  match s.host.reach address with
  | .ok _ => s.settle
  | .error _ => s

def call (s : Session) (address : Address) (limit : Duration) (call : Client.Call) :
    Except ClientError Client.Called × Session :=
  let ready := s.approach address
  let made := ready.daemon.call address limit call
  (made.1, { ready with daemon := made.2 })

/-- Lets many clients ask for the health at once, and counts those that get it. -/
def askHealth (s : Session) (address : Address) : Nat → Nat × Session
  | 0 => (0, s)
  | count + 1 =>
      let asked := s.call address Client.defaultLimit .health
      let later := askHealth asked.2 address count
      (later.1 + if asked.1.isOk then 1 else 0, later.2)

/-- Sends octets to an address and reads all that comes back. -/
def send (s : Session) (address : Address) (octets : Octets) :
    Except SystemError (List Http.Answer) × Session :=
  match s.host.reach address with
  | .error fault => (.error fault, s)
  | .ok listener =>
      let ready := s.settle
      if ready.daemon.isServed listener then
        let served := ready.daemon.serveOctets octets
        (.ok served.1.answers, { ready with daemon := served.2 })
      else (.ok [], ready)

end Session

end Beacon
