import Beacon.Log.Filter
import Beacon.Session

/-!
# Fixtures

Services that are set up for a test: a configuration is built without any environment, a daemon
binds and serves it, its latest requests are kept, and it is stopped by request at the end. The
log of a test is detailed for the parts of this program and silent about most else.
-/

namespace Beacon.Fixture

/-! ## Configurations -/

inductive Change where
  | tcp (port : Port)
  /-- TCP on a port that the system picks. -/
  | ephemeralTcp
  | unixSocket (path : Path)
  | environment (label : String)
  | version (label : String)
  deriving DecidableEq, Repr

def Change.apply (config : Config) : Change → Config
  | .tcp port => { config with transport := .tcp port }
  | .ephemeralTcp => { config with transport := .tcp 0 }
  | .unixSocket path => { config with transport := .unix path }
  | .environment label => { config with environmentLabel := label }
  | .version label => { config with versionLabel := label }

/-- The configuration that steps build from the one in which nothing is set. -/
def configure (changes : List Change) : Config :=
  changes.foldl Change.apply Config.default

/-- The configuration of a service on a socket file of its own. -/
def unixConfig : Config :=
  configure [.unixSocket (Utf8.octets "server.sock")]

def tcpConfig : Config :=
  configure [.ephemeralTcp]

/-! ## Services -/

def capacity : Nat := 256

def endpointName : String := "server"

def start (config : Config) (identity : Identity) (host : Host) : Except BindError Session :=
  let session := Session.start config identity (.kept (.empty capacity)) host
  match session.daemonBind endpointName with
  | (.error failure, _) => .error failure
  | (.ok _, bound) => .ok ((bound.serve endpointName).getD bound)

def socketPath? (session : Session) : Option Path :=
  match session.address with
  | some (.unix path) => some path
  | _ => none

def stop (session : Session) : Option (Session.Joined × Session) :=
  session.stop.join

/-! ## Logs -/

def defaultFilterText : String :=
  "warn,sockserve_core=debug,sockserve_config=debug"

/-- The filter that the log of a test has unless the environment asks for another. -/
def defaultFilter : Log.Filter :=
  ⟨[.everywhere Log.Level.warn.rank,
    ⟨"sockserve_core", none, false, Log.Level.debug.rank⟩,
    ⟨"sockserve_config", none, false, Log.Level.debug.rank⟩]⟩

example : (Log.Filter.parse defaultFilterText).toOption = some defaultFilter := by
  decide +kernel

/-- The filter of the log of a test, if the text that asks for one can be read to its end. -/
def logFilter (asked : Option String) : Option Log.Filter :=
  Log.Filter.orElse asked defaultFilter

end Beacon.Fixture
