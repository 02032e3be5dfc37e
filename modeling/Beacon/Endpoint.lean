import Beacon.Failure
import Beacon.Host.Network
import Beacon.Log.Event

/-!
# Listening endpoints

Turning a transport into a listening endpoint, and ending it. A Unix endpoint first clears away
what stands at its path, and opens its socket file to everybody once it is made. The file belongs
to a guard that remembers the path alone: when the endpoint ends, the guard unlinks whatever
stands there, once. A guard that is released unlinks at once and goes out of scope afterwards;
being disarmed by then, it does not unlink again.
-/

namespace Beacon

inductive Endpoint where
  | tcp (port : Port)
  | unix (socket : Nat) (path : Path)
  deriving DecidableEq, Repr

namespace Endpoint

def listener : Endpoint → Listener
  | .tcp port => .tcp port
  | .unix socket _ => .unix socket

def address : Endpoint → Address
  | .tcp port => .tcp port
  | .unix _ path => .unix path

end Endpoint

/-- The socket file of an endpoint: the socket that made it, and the path it was made at. -/
structure SocketFile where
  socket : Nat
  path : Path
  deriving DecidableEq, Repr

def Endpoint.socketFile? : Endpoint → Option SocketFile
  | .tcp _ => none
  | .unix socket path => some ⟨socket, path⟩

/-- The mode that socket files are given: everybody may connect. -/
def socketMode : Nat := 0o777

/-! ## Events -/

def listeningOnTcp (port : Port) : Log.Event :=
  ⟨.info, .transport, "listening on TCP", [("addr", .printed (loopbackText port))]⟩

def removedStale (path : Path) : Log.Event :=
  ⟨.info, .transport, "removed stale socket file", [("path", .printed (Utf8.display path))]⟩

def listeningOnUnix (path : Path) : Log.Event :=
  ⟨.info, .transport, "listening on Unix socket",
    [("path", .printed (Utf8.display path)),
      ("mode", .printed (String.ofList (Nat.toDigits 8 socketMode)))]⟩

def socketFileRemoved (path : Path) : Log.Event :=
  ⟨.debug, .transport, "socket file removed", [("path", .printed (Utf8.display path))]⟩

def socketFileKept (path : Path) (fault : SystemError) : Log.Event :=
  ⟨.warn, .transport, "failed to remove socket file",
    [("path", .printed (Utf8.display path)), ("error", .printed fault.text)]⟩

/-! ## Guards -/

/-- A guard of a socket file: the path that it unlinks, and whether it still has to. -/
structure Guard where
  path : Path
  armed : Bool
  deriving DecidableEq, Repr

/-- The work of a guard: the file system after it, whether an entry was removed, what is reported,
and the paths that the system was asked to unlink. An entry that is gone already is nothing to
report. -/
structure Unlinked where
  files : FileSystem
  removed : Bool
  events : List Log.Event
  attempts : List Path

def guardUnlink (files : FileSystem) (path : Path) : Unlinked :=
  match files.unlink path with
  | .ok files' => ⟨files', true, [socketFileRemoved path], [path]⟩
  | .error fault =>
      if fault = .noEntry then ⟨files, false, [], [path]⟩
      else ⟨files, false, [socketFileKept path fault], [path]⟩

namespace Guard

def new (path : Path) : Guard :=
  ⟨path, true⟩

/-- Unlinks the path of a guard that is armed, and disarms it. -/
def unlink (files : FileSystem) (guard : Guard) : Unlinked × Guard :=
  if guard.armed then (guardUnlink files guard.path, { guard with armed := false })
  else (⟨files, false, [], []⟩, guard)

def drop (files : FileSystem) (guard : Guard) : Unlinked :=
  (guard.unlink files).1

/-- Unlinks now. The guard goes out of scope right after that. -/
def release (files : FileSystem) (guard : Guard) : Unlinked :=
  let now := guard.unlink files
  let later := now.2.drop now.1.files
  ⟨later.files, now.1.removed, now.1.events ++ later.events, now.1.attempts ++ later.attempts⟩

@[simp] theorem drop_new (files : FileSystem) (path : Path) :
    (new path).drop files = guardUnlink files path := rfl

/-- A released guard is disarmed when it goes out of scope: it unlinks once, as one that is only
dropped. -/
@[simp] theorem release_new (files : FileSystem) (path : Path) :
    (new path).release files = guardUnlink files path := by
  simp [release, new, unlink, drop]

end Guard

/-! ## Binding -/

/-- An attempt to bind: its result, the host after it and what is reported. -/
structure BindAttempt where
  result : Except BindError Endpoint
  host : Host
  events : List Log.Event

/-- Clears away what stands at a socket path; it is no fault if nothing does. -/
def clearPath (files : FileSystem) (path : Path) :
    Except SystemError (FileSystem × List Log.Event) :=
  match files.unlink path with
  | .ok files' => .ok (files', [removedStale path])
  | .error fault => if fault = .noEntry then .ok (files, []) else .error fault

/-- Binds a Unix endpoint. If the mode cannot be set the endpoint ends at once. -/
def bindUnix (host : Host) (path : Path) : BindAttempt :=
  match clearPath host.files path with
  | .error fault => ⟨.error (.staleSocket path fault), host, []⟩
  | .ok (cleared, events) =>
      let id := host.nextSocket
      match cleared.bindSocket id path with
      | .error fault => ⟨.error (.unix path fault), { host with files := cleared }, events⟩
      | .ok made =>
          match host.setMode made path socketMode with
          | .error fault =>
              let ended := (Guard.new path).drop made
              ⟨.error (.permissions path fault),
                { host with files := ended.files, nextSocket := id + 1 },
                events ++ ended.events⟩
          | .ok ready =>
              ⟨.ok (.unix id path),
                { host with files := ready, nextSocket := id + 1 }.openListener (.unix id),
                events ++ [listeningOnUnix path]⟩

def bindTcp (host : Host) (port : Port) : BindAttempt :=
  match host.listenTcp port with
  | .error fault => ⟨.error (.tcp port fault), host, []⟩
  | .ok (bound, host') => ⟨.ok (.tcp bound), host', [listeningOnTcp bound]⟩

def bindTransport (host : Host) : Transport → BindAttempt
  | .unix path => bindUnix host path
  | .tcp port => bindTcp host port
  | .defaultTcp => bindTcp host defaultPort

/-! ## Ending -/

/-- The end of an endpoint: the host after it, whether its file was removed, what is reported, and
the socket files that the system was asked to unlink. -/
structure Ended where
  host : Host
  removed : Bool
  events : List Log.Event
  attempts : List SocketFile

/-- The end of a socket's endpoint on a host by the work of its guard. -/
def Ended.ofUnlinked (host : Host) (socket : Nat) (unlinked : Unlinked) : Ended :=
  ⟨{ host with files := unlinked.files }, unlinked.removed, unlinked.events,
    unlinked.attempts.map (SocketFile.mk socket)⟩

namespace Endpoint

def close (host : Host) (endpoint : Endpoint) : Host :=
  host.closeListener endpoint.listener

def releaseFile (host : Host) : Endpoint → Ended
  | .tcp _ => ⟨host, false, [], []⟩
  | .unix socket path => .ofUnlinked host socket ((Guard.new path).release host.files)

/-- Lets the guard of an endpoint go out of scope, if it has one. -/
def dropFile (host : Host) : Endpoint → Ended
  | .tcp _ => ⟨host, false, [], []⟩
  | .unix socket path => .ofUnlinked host socket ((Guard.new path).drop host.files)

/-- An endpoint goes out of scope: the listener is closed, then the socket file is unlinked. -/
def drop (host : Host) (endpoint : Endpoint) : Ended :=
  endpoint.dropFile (endpoint.close host)

/-- An endpoint is taken apart: the listener is closed, then the guard is released. -/
def release (host : Host) (endpoint : Endpoint) : Ended :=
  endpoint.releaseFile (endpoint.close host)

theorem releaseFile_eq_dropFile (host : Host) (endpoint : Endpoint) :
    endpoint.releaseFile host = endpoint.dropFile host := by
  cases endpoint with
  | tcp port => rfl
  | unix socket path => simp [releaseFile, dropFile]

end Endpoint

end Beacon
