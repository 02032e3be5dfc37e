import Beacon.Host.FileSystem

/-!
# The host

The part of the system that a service and its clients share: the file system, the listeners that
are open, and the connections that wait at a listener because nobody has accepted them yet.
-/

namespace Beacon

inductive Listener where
  | tcp (port : Port)
  /-- A Unix socket, by its identity; its file may have been moved or removed. -/
  | unix (socket : Nat)
  deriving DecidableEq, Repr

structure Host where
  files : FileSystem
  listening : List Listener
  /-- Connections that nobody has accepted, oldest first, with the octets sent on them. -/
  waiting : List (Listener × Octets)
  /-- The identity of the next socket. -/
  nextSocket : Nat
  /-- The next port that is picked when none is asked for. -/
  nextPort : Nat
  /-- Whether connections to loopback addresses reach anybody. -/
  loopback : Bool
  /-- Why no modes can be set, where the file system does not take them. -/
  modeFault? : Option SystemError

namespace Host

/-- A host on which nobody listens, and on which modes can be set. -/
def idle (files : FileSystem) (loopback : Bool) : Host :=
  ⟨files, [], [], 1, 60999, loopback, none⟩

/-- Sets the mode of what a path leads to in the given files, where modes can be set. -/
def setMode (host : Host) (files : FileSystem) (path : Path) (mode : Nat) :
    Except SystemError FileSystem :=
  match files.setMode path mode, host.modeFault? with
  | .error fault, _ => .error fault
  | .ok _, some fault => .error fault
  | .ok changed, none => .ok changed

def openListener (host : Host) (listener : Listener) : Host :=
  { host with listening := listener :: host.listening }

/-- Closes a listener; the connections that wait there are lost. -/
def closeListener (host : Host) (listener : Listener) : Host :=
  { host with
    listening := host.listening.filter (· != listener)
    waiting := host.waiting.filter fun entry => entry.1 != listener }

/-- Opens a TCP listener on a port; port 0 stands for one that nobody has. -/
def listenTcp (host : Host) (port : Port) : Except SystemError (Port × Host) :=
  if port = 0 then
    let picked := UInt16.ofNat host.nextPort
    if host.nextPort = 0 ∨ .tcp picked ∈ host.listening then .error .addressInUse
    else .ok (picked, { host.openListener (.tcp picked) with nextPort := host.nextPort - 1 })
  else if .tcp port ∈ host.listening then .error .addressInUse
  else .ok (port, host.openListener (.tcp port))

/-- Finds the listener that a client reaches at an address. -/
def reach (host : Host) : Address → Except SystemError Listener
  | .tcp port =>
      if !host.loopback then .error .networkUnreachable
      else if .tcp port ∈ host.listening then .ok (.tcp port)
      else .error .connectionRefused
  | .unix path =>
      match host.files.socketAt path with
      | .error fault => .error fault
      | .ok socket =>
          if .unix socket ∈ host.listening then .ok (.unix socket) else .error .connectionRefused

def wait (host : Host) (listener : Listener) (sent : Octets) : Host :=
  { host with waiting := host.waiting ++ [(listener, sent)] }

/-- The octets of the connections that wait at a listener, oldest first. -/
def waitingAt (host : Host) (listener : Listener) : List Octets :=
  (host.waiting.filter fun entry => entry.1 == listener).map (·.2)

def accept (host : Host) (listener : Listener) : Host :=
  { host with waiting := host.waiting.filter fun entry => entry.1 != listener }

end Host

end Beacon
