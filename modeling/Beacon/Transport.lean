import Beacon.Text.Decimal
import Beacon.Text.Utf8

/-!
# Transports and addresses

Where a service listens: a loopback TCP port or a Unix socket file. A transport is what was
configured; an address is what a client connects to.
-/

namespace Beacon

/-- A file system path, as the octets the system takes it for. -/
abbrev Path := Octets

abbrev Port := UInt16

def defaultPort : Port := 8080

inductive Transport where
  /-- Loopback TCP on a chosen port; port 0 lets the system pick one. -/
  | tcp (port : Port)
  /-- A Unix socket file at a path. -/
  | unix (path : Path)
  /-- Loopback TCP on the default port, because nothing is configured. -/
  | defaultTcp
  deriving DecidableEq, Repr

inductive Address where
  | tcp (port : Port)
  | unix (path : Path)
  deriving DecidableEq, Repr

def loopbackText (port : Port) : String :=
  "127.0.0.1:" ++ Decimal.numeral port.toNat

/-- The text of an address; octets of a path that are no text show as replacement characters. -/
def Address.text : Address → String
  | .tcp port => loopbackText port
  | .unix path => Utf8.display path

namespace Transport

def text : Transport → String
  | .tcp port => "tcp " ++ loopbackText port
  | .unix path => "unix " ++ Utf8.display path
  | .defaultTcp => "tcp " ++ loopbackText defaultPort ++ " (default)"

def tcpPort? : Transport → Option Port
  | .tcp port => some port
  | .defaultTcp => some defaultPort
  | .unix _ => none

/-- The socket path of a transport, if it is one over a Unix socket. -/
def socketPath? : Transport → Option Path
  | .unix path => some path
  | _ => none

/-- The address that a transport is served at and probed at. -/
def address : Transport → Address
  | .tcp port => .tcp port
  | .unix path => .unix path
  | .defaultTcp => .tcp defaultPort

end Transport

end Beacon
