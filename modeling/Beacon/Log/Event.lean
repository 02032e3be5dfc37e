/-!
# Log events

What the program reports about its own work: an event has a level, the part of the program it
comes from, a message and named fields.
-/

namespace Beacon.Log

/-- The severity of an event, the most severe first. -/
inductive Level where
  | error
  | warn
  | info
  | debug
  | trace
  deriving DecidableEq, Repr

namespace Level

/-- The place of a level, counted from the most severe; larger is more detailed. -/
def rank : Level → Nat
  | .error => 1
  | .warn => 2
  | .info => 3
  | .debug => 4
  | .trace => 5

def name : Level → String
  | .error => "ERROR"
  | .warn => "WARN"
  | .info => "INFO"
  | .debug => "DEBUG"
  | .trace => "TRACE"

end Level

/-- The parts of the program that report events. -/
inductive Source where
  | config
  | transport
  | daemon
  | client
  | requests
  | command
  deriving DecidableEq, Repr

/-- The name under which a part reports, by which log filters select it. -/
def Source.target : Source → String
  | .config => "sockserve_config"
  | .transport => "sockserve_core::transport"
  | .daemon => "sockserve_core::daemon"
  | .client => "sockserve_core::api::client"
  | .requests => "sockserve_core::logging"
  | .command => "sockserve_apps"

inductive Value where
  /-- A string of its own, which a log line puts in quotes. -/
  | text (value : String)
  /-- The printed form of some other value, which a log line shows as it is. -/
  | printed (value : String)
  /-- A number. -/
  | number (value : Nat)
  deriving DecidableEq, Repr

structure Event where
  level : Level
  source : Source
  message : String
  fields : List (String × Value)
  deriving DecidableEq, Repr

end Beacon.Log
