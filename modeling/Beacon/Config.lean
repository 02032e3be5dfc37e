import Beacon.Log.Event
import Beacon.Text.Blank
import Beacon.Text.Quoted
import Beacon.Transport

/-!
# Configuration

A configuration is resolved once from four environment variables. The transport comes from the
first candidate variable that is set and not empty; a candidate that is set but malformed is an
error and never falls through to the next one. The two labels are taken as they are.
-/

namespace Beacon

/-! ## The environment -/

/-- The environment variables that are read. -/
inductive Setting where
  | port
  | socketPath
  | environmentLabel
  | versionLabel
  deriving DecidableEq, Repr

namespace Setting

def name : Setting → String
  | .port => "PORT"
  | .socketPath => "SOCKET_PATH"
  | .environmentLabel => "APP_ENV"
  | .versionLabel => "APP_VERSION"

def all : List Setting :=
  [.port, .socketPath, .environmentLabel, .versionLabel]

end Setting

/-- The values of the variables; a variable without one is unset. -/
abbrev Environment := Setting → Option String

/-- The environment of a process: a value that is not a text counts as unset. -/
def Environment.ofOctets (values : Setting → Option Octets) : Environment := fun setting =>
  (values setting).bind fun value => (Utf8.decode? value).map String.ofList

/-! ## Ports -/

/-- The port number that a value spells: blanks at the ends, an optional plus sign, and digits of
any length that fit a word of sixteen bits other than 0. -/
def Port.ofText? (value : String) : Option Port :=
  (Decimal.word? (Decimal.unsigned (Text.trim value.toList))).filter (· ≠ 0)

inductive ConfigError where
  /-- The port variable is set to something that is no port number. -/
  | invalidPort (value : String)
  deriving DecidableEq, Repr

namespace ConfigError

def setting : ConfigError → Setting
  | .invalidPort _ => .port

def value : ConfigError → String
  | .invalidPort value => value

def message (e : ConfigError) : String :=
  e.setting.name ++ " must be a port number between 1 and 65535, got " ++ Text.quote e.value

end ConfigError

/-! ## Transport candidates -/

inductive Candidate where
  | port
  | socketPath
  deriving DecidableEq, Repr

namespace Candidate

def precedence : List Candidate :=
  [.port, .socketPath]

def setting : Candidate → Setting
  | .port => .port
  | .socketPath => .socketPath

def resolve (value : String) : Candidate → Except ConfigError Transport
  | .port =>
      match Port.ofText? value with
      | some number => .ok (.tcp number)
      | none => .error (.invalidPort value)
  | .socketPath => .ok (.unix (Utf8.octets value))

end Candidate

/-- A resolution with its trace: the variables asked for in order and the events reported. -/
structure Resolution (α : Type) where
  result : Except ConfigError α
  lookups : List Setting
  events : List Log.Event

def matchedEvent (candidate : Candidate) : Log.Event :=
  ⟨.debug, .config, "transport candidate matched", [("var", .text candidate.setting.name)]⟩

def unconfiguredEvent : Log.Event :=
  ⟨.debug, .config, "no transport configured, using default TCP port", []⟩

def selectFrom (env : Environment) : List Candidate → Resolution Transport
  | [] => ⟨.ok .defaultTcp, [], [unconfiguredEvent]⟩
  | candidate :: rest =>
      match (env candidate.setting).filter (· ≠ "") with
      | some value => ⟨candidate.resolve value, [candidate.setting], [matchedEvent candidate]⟩
      | none =>
          let later := selectFrom env rest
          { later with lookups := candidate.setting :: later.lookups }

def selectTransport (env : Environment) : Resolution Transport :=
  selectFrom env Candidate.precedence

/-! ## The whole configuration -/

def unknownLabel : String := "unknown"

structure Config where
  transport : Transport
  environmentLabel : String
  versionLabel : String
  deriving DecidableEq, Repr

namespace Config

/-- The configuration of an environment in which nothing is set. -/
def default : Config :=
  ⟨.defaultTcp, unknownLabel, unknownLabel⟩

/-- The configuration of an environment. The labels are read only after the transport is found. -/
def resolve (env : Environment) : Resolution Config :=
  let selected := selectTransport env
  match selected.result with
  | .error e => ⟨.error e, selected.lookups, selected.events⟩
  | .ok transport =>
      ⟨.ok ⟨transport, (env .environmentLabel).getD unknownLabel,
          (env .versionLabel).getD unknownLabel⟩,
        selected.lookups ++ [.environmentLabel, .versionLabel], selected.events⟩

end Config

end Beacon
