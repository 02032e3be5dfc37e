import Beacon.Daemon.Step

/-!
# Custody of endpoints

Who has each endpoint that is there. One that was bound is held by its owner, who hands it to a
serving call or ends it; a call that binds has its endpoint from the start. An endpoint is in one
pair of hands only, so it is served or ended once, and a move that takes one needs it to be held.
Beside that, what each move does to the files of the host.
-/

namespace Beacon

def Task.socketFile? (task : Task) : Option SocketFile :=
  if task.stage.ownsFile then task.endpoint.bind Endpoint.socketFile? else none

namespace Daemon

def Move.taken? : Move → Option Endpoint
  | .serve endpoint | .drop endpoint | .release endpoint => some endpoint
  | _ => none

def given? (d : Daemon) : Move → Option Endpoint
  | .bind => d.bindUnannounced.1.toOption
  | .bindAt transport => (d.bindAt transport).1.toOption
  | _ => none

inductive Deed where
  /-- A Unix endpoint is to be bound. -/
  | bind (path : Path)
  /-- A Unix endpoint ends. -/
  | unlink (file : SocketFile)
  /-- Somebody else changes the files. -/
  | meddle (files : FileSystem)

def taskDeed? (d : Daemon) (task : Task) : Option Deed :=
  match task.stage with
  | .binding => d.config.transport.socketPath?.map .bind
  | .closed => task.socketFile?.map .unlink
  | _ => none

def deed? (d : Daemon) : Move → Option Deed
  | .bind => d.config.transport.socketPath?.map .bind
  | .bindAt transport => transport.socketPath?.map .bind
  | .drop endpoint | .release endpoint => endpoint.socketFile?.map .unlink
  | .advance i => d.tasks[i]?.bind d.taskDeed?
  | .cancel i => d.tasks[i]?.bind fun task => task.socketFile?.map .unlink
  | .meddle files => some (.meddle files)
  | _ => none

end Daemon

/-- A daemon and the endpoints that are held by owners. -/
structure Custody where
  daemon : Daemon
  held : List Endpoint

namespace Custody

def create (config : Config) (identity : Identity) (sink : Sink) (host : Host) : Custody :=
  ⟨.create config identity sink host, []⟩

def host (c : Custody) : Host :=
  c.daemon.host

def files (c : Custody) : FileSystem :=
  c.host.files

/-- The socket files of the endpoints that have not ended: those that are held, and those that
serving calls own. -/
def live (c : Custody) : List SocketFile :=
  c.held.filterMap Endpoint.socketFile? ++ c.daemon.tasks.filterMap Task.socketFile?

/-- What comes of a move; none if it cannot be made, or takes what is not held. -/
def step (c : Custody) (move : Daemon.Move) : Option Custody :=
  match move.taken? with
  | some endpoint =>
      if endpoint ∈ c.held then
        (c.daemon.step move).map fun d => ⟨d, c.held.erase endpoint⟩
      else none
  | none => (c.daemon.step move).map fun d => ⟨d, c.held ++ (c.daemon.given? move).toList⟩

/-- One custody comes from another by moves, each of which is allowed. -/
inductive Runs (allowed : Custody → Daemon.Move → Custody → Prop) : Custody → Custody → Prop where
  | refl (c : Custody) : Runs allowed c c
  | step {c c' c'' : Custody} {move : Daemon.Move} (hrun : Runs allowed c c')
      (hstep : c'.step move = some c'') (hallowed : allowed c' move c'') : Runs allowed c c''

end Custody

end Beacon
