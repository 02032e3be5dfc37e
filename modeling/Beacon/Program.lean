import Beacon.CommandLine.Read
import Beacon.Daemon.Settle
import Beacon.Log.Line

/-!
# The program

A run of the program from its arguments and environment to its outcome. The command line may end
it at once. Otherwise the configuration is resolved, and the program either serves until it is
interrupted or probes the health of the service at the configured address. Every run leaves an
exit status, the lines of its log and its answer on the output, and a report of its failure.
-/

namespace Beacon

/-! ## Outcomes -/

structure Outcome where
  status : Nat
  output : List String
  errors : List String
  deriving DecidableEq, Repr

inductive CommandFailure where
  | configuration (cause : ConfigError)
  | serving (cause : DaemonError)
  /-- The exchange with the address fails. -/
  | probe (address : Address) (cause : ClientError)
  /-- Another service answers at the address. -/
  | otherService (address : Address) (answered expected : String)
  deriving DecidableEq, Repr

namespace CommandFailure

def report : CommandFailure → Report
  | .configuration cause => ⟨"invalid configuration", [cause.message]⟩
  | .serving cause => cause.report
  | .probe address cause =>
      cause.report.within ("health check against " ++ address.text ++ " failed")
  | .otherService address answered expected =>
      ⟨address.text ++ " is answered by " ++ Text.quote answered ++ ", expected " ++
        Text.quote expected, []⟩

end CommandFailure

namespace Report

/-- The lines of a cause: the first one is marked, and the others stand below its text. -/
def causeLines (mark : String) (cause : String) : List String :=
  match cause.splitOn "\n" with
  | [] => []
  | first :: rest =>
      (mark ++ first) :: rest.map fun line => String.ofList (List.replicate mark.length ' ') ++ line

/-- The lines in which a failed run reports. Causes are numbered if there are several. -/
def lines (report : Report) : List String :=
  let causes :=
    match report.sources with
    | [] => []
    | [cause] => ["", "Caused by:"] ++ causeLines "    " cause
    | causes =>
        let numbered (entry : String × Nat) : List String :=
          let number := Decimal.numeral entry.2
          let margin := String.ofList (List.replicate (5 - number.length) ' ')
          causeLines (margin ++ number ++ ": ") entry.1
        ["", "Caused by:"] ++ causes.zipIdx.flatMap numbered
  ("Error: " ++ report.message) :: causes

end Report

/-! ## Commands -/

/-- A command that has read its command line, for whom it runs and what it logs. -/
structure Commission where
  identity : Identity
  filter : Log.Filter
  deriving DecidableEq, Repr

namespace Commission

def event (commission : Commission) (level : Log.Level) (message : String)
    (field : String × Log.Value) : Log.Event :=
  ⟨level, .command, message, [("service", .text commission.identity.name), field]⟩

def fatalEvent (commission : Commission) (failure : CommandFailure) : Log.Event :=
  commission.event .error "fatal" ("error", .printed failure.report.line)

/-- The outcome of a command that succeeds with an answer, after some events. -/
def succeed (commission : Commission) (events : List Log.Event) (answer : List String) : Outcome :=
  ⟨0, commission.filter.lines events ++ answer, []⟩

/-- The outcome of a command that fails, after some events. -/
def fail (commission : Commission) (events : List Log.Event) (failure : CommandFailure) :
    Outcome :=
  ⟨1, commission.filter.lines (events ++ [commission.fatalEvent failure]), failure.report.lines⟩

end Commission

/-! ## Checking -/

/-- A health check that is about to be made, and the events that came before it. -/
structure Check where
  commission : Commission
  config : Config
  events : List Log.Event

namespace Check

def address (check : Check) : Address :=
  check.config.transport.address

def exchange (check : Check) (connected : Except SystemError Client.Peer) :
    Client.Exchange Health :=
  Client.health check.address Client.defaultLimit connected

/-- What the check finds: the health of the service that is expected. -/
def verdict (check : Check) (answer : Except ClientError Health) :
    Except CommandFailure Health :=
  match answer with
  | .error cause => .error (.probe check.address cause)
  | .ok health =>
      if health.service = check.commission.identity.name then .ok health
      else .error (.otherService check.address health.service check.commission.identity.name)

def outcome (check : Check) (exchange : Client.Exchange Health) : Outcome :=
  let events := check.events ++ exchange.events
  match check.verdict exchange.result with
  | .ok health => check.commission.succeed events [health.encode]
  | .error failure => check.commission.fail events failure

def run (check : Check) (connected : Except SystemError Client.Peer) : Outcome :=
  check.outcome (check.exchange connected)

/-- The whole check on a host, against what is found at the address. A connection that is never
answered is left waiting. -/
def runOn (check : Check) (host : Host) (found : Except SystemError (Listener × Client.Peer)) :
    Outcome × Host :=
  let made := check.exchange (found.map (·.2))
  let left :=
    match found, made.sent with
    | .ok (listener, .silent), some sent => host.wait listener sent
    | _, _ => host
  (check.outcome made, left)

end Check

/-! ## Serving -/

/-- A service that is about to be started, and the events that came before it. -/
structure Serving where
  commission : Commission
  config : Config
  events : List Log.Event

namespace Serving

def startingEvent (serving : Serving) : Log.Event :=
  serving.commission.event .info "starting" ("transport", .printed serving.config.transport.text)

def exitingEvent (serving : Serving) (trigger : Trigger) : Log.Event :=
  serving.commission.event .info "exiting" ("trigger", .printed trigger.text)

/-- The daemon that is started on a host. It binds and serves in one call. -/
def daemon (serving : Serving) (host : Host) : Daemon :=
  ((Daemon.create serving.config serving.commission.identity .logged host).report
    (serving.events ++ [serving.startingEvent])).run

def result? (daemon : Daemon) : Option (Except DaemonError Trigger) :=
  match daemon.tasks.head? with
  | some task =>
      match task.stage with
      | .returned result => some result
      | _ => none
  | none => none

/-- The outcome of the program, if the call of its daemon has returned. -/
def outcome? (serving : Serving) (daemon : Daemon) : Option Outcome :=
  (result? daemon).map fun result =>
    match result with
    | .ok trigger =>
        serving.commission.succeed (daemon.log ++ [serving.exitingEvent trigger]) []
    | .error cause => serving.commission.fail daemon.log (.serving cause)

end Serving

/-! ## Running the program -/

structure Invocation where
  identity : Identity
  arguments : List Octets
  environment : Setting → Option Octets
  /-- The log filter that the environment asks for. -/
  filter : Option Octets

namespace Invocation

def filterVariable : String := "RUST_LOG"

def version : String := "0.1.0"

/-- The level down to which events are logged, by how verbose the program is to be. -/
def level : Nat → Log.Level
  | 0 => .info
  | 1 => .debug
  | _ => .trace

/-- The filter of the log: that of the environment if it is one, or one by verbosity. -/
def logFilter (invocation : Invocation) (verbosity : Nat) : Option Log.Filter :=
  let asked := (invocation.filter.bind Utf8.decode?).map String.ofList
  Log.Filter.orElse asked (.everywhere (level verbosity))

def resolution (invocation : Invocation) : Resolution Config :=
  Config.resolve (Environment.ofOctets invocation.environment)

/-- What the program does once it has been started. -/
inductive Start where
  /-- Nothing more. -/
  | ended (outcome : Outcome)
  | checking (check : Check)
  | serving (serving : Serving)

/-- The outcome of a program that breaks off, for a filter that cannot be read to its end. -/
def brokenOff : Outcome :=
  ⟨101, [], ["the log filter is divided inside a character"]⟩

def command (invocation : Invocation) (command : Command) (commission : Commission) : Start :=
  let resolution := invocation.resolution
  match resolution.result with
  | .error cause => .ended (commission.fail resolution.events (.configuration cause))
  | .ok config =>
      match command with
      | .serve => .serving ⟨commission, config, resolution.events⟩
      | .check => .checking ⟨commission, config, resolution.events⟩

def start (invocation : Invocation) : Start :=
  let program := invocation.identity.name
  match CommandLine.read invocation.arguments with
  | .error fault => .ended ⟨2, [], fault.lines program⟩
  | .ok .version => .ended ⟨0, [program ++ " " ++ version], []⟩
  | .ok (.help page) => .ended ⟨0, page.text program, []⟩
  | .ok (.run command verbosity) =>
      match invocation.logFilter verbosity with
      | some filter => invocation.command command ⟨invocation.identity, filter⟩
      | none => .ended brokenOff

end Invocation

/-! ## Processes -/

inductive Process where
  /-- The program is over, and has left the host. -/
  | over (outcome : Outcome) (host : Host)
  | serving (service : Serving) (daemon : Daemon)

namespace Process

def host : Process → Host
  | .over _ host => host
  | .serving _ daemon => daemon.host

def outcome? : Process → Option Outcome
  | .over outcome _ => some outcome
  | .serving service daemon => service.outcome? daemon

end Process

/-- Starts the program on a host, where something is found at each address. -/
def Invocation.launch (invocation : Invocation) (host : Host)
    (find : Address → Except SystemError (Listener × Client.Peer)) : Process :=
  match invocation.start with
  | .ended outcome => .over outcome host
  | .checking check =>
      let (outcome, left) := check.runOn host (find check.address)
      .over outcome left
  | .serving serving => .serving serving (serving.daemon host)

end Beacon
