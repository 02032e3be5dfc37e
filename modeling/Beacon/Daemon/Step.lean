import Beacon.Daemon.Basic

/-!
# The steps of a daemon

Every step that a daemon can take on its own or that somebody can make it take. `step` is total:
it says for each move what the daemon is afterwards, or that the move cannot be made now.
-/

namespace Beacon.Daemon

/-! ## Bind calls -/

/-- Takes the first step of a bind call: an endpoint is bound, and is still to be announced. -/
def beginBind (d : Daemon) : Daemon :=
  match d.bindUnannounced with
  | (.ok _, bound) => { bound with unannounced := bound.unannounced + 1 }
  | (.error _, after) => after

/-- Takes the last step of a bind call that has an endpoint: it is announced. -/
def endBind (d : Daemon) : Option Daemon :=
  match d.unannounced with
  | 0 => none
  | count + 1 => some ({ d with unannounced := count }.announce .bound)

/-! ## The call -/

def stoppedEvent (d : Daemon) : Log.Event :=
  ⟨.info, .daemon, "server stopped", [("service", .text d.identity.name)]⟩

def bindTask (d : Daemon) (i : Nat) : Daemon :=
  match d.bindUnannounced with
  | (.ok endpoint, after) =>
      after.updateTask i fun task => { task with endpoint := some endpoint, stage := .entering }
  | (.error failure, after) => after.setStage i (.returned (.error (.bind failure)))

def closeTask (d : Daemon) (task : Task) : Daemon :=
  match task.endpoint with
  | some endpoint => { d with host := endpoint.close d.host }
  | none => d

def afterEnd (d : Daemon) (ended : Ended) : Daemon :=
  { d with
    host := ended.host
    log := d.log ++ ended.events
    unlinked := d.unlinked ++ ended.attempts }

def releaseTask (d : Daemon) (task : Task) : Daemon :=
  match task.endpoint with
  | some endpoint => d.afterEnd (endpoint.releaseFile d.host)
  | none => d

def dropTask (d : Daemon) (task : Task) : Daemon :=
  match task.endpoint with
  | some endpoint => d.afterEnd (endpoint.dropFile d.host)
  | none => d

/-- Enters the accept loop of a call: the watcher starts, and those who wait are served. -/
def openTask (d : Daemon) (i : Nat) (task : Task) : Daemon :=
  let opened := d.updateTask i fun task => { task with stage := .accepting, watcher := .waiting }
  match task.endpoint with
  | some endpoint => opened.serveWaiting endpoint.listener
  | none => opened

/-- Takes the next step of a call, if there is one that it can take. -/
def advanceTask (d : Daemon) (i : Nat) (task : Task) : Option Daemon :=
  match task.stage with
  | .binding => some (d.bindTask i)
  | .entering => some ((d.announce .bound).setStage i .announced)
  | .announced => some ((d.announce .serving).setStage i .opening)
  | .opening => some (d.openTask i task)
  | .accepting =>
      if task.watcher.answer?.isSome then some ((d.closeTask task).setStage i .closed) else none
  | .closed => some ((d.releaseTask task).setStage i .released)
  | .released => some ((d.announce .shuttingDown).setStage i .leaving)
  | .leaving => some ((d.announce .stopped).setStage i .left)
  | .left => some ((d.report [d.stoppedEvent]).setStage i .reported)
  | .reported => task.verdict?.map fun result => d.setStage i (.returned result)
  | .returned _ => none
  | .cancelled => none

/-! ## The watcher -/

def shuttingDownEvent (d : Daemon) (trigger : Trigger) : Log.Event :=
  ⟨.info, .daemon, "shutting down",
    [("service", .text d.identity.name), ("trigger", .printed trigger.text)]⟩

/-- The triggers that a waiting watcher may take: the interrupt of its call if it has come, and a
stop request. -/
def triggers (d : Daemon) (task : Task) : List Trigger :=
  task.interrupt.toList ++ if d.stopRequested then [.requested] else []

/-- Takes the next step of a watcher; a waiting one takes the given trigger. -/
def advanceWatcher (d : Daemon) (i : Nat) (task : Task) (trigger : Trigger) : Option Daemon :=
  match task.watcher with
  | .waiting =>
      if trigger ∈ d.triggers task then
        some ((d.report [d.shuttingDownEvent trigger]).setWatcher i (.reported trigger))
      else none
  | .reported t => some ((d.announce .shuttingDown).setWatcher i (.announced t))
  | .announced t => some (d.setWatcher i (.handed t))
  | .absent => none
  | .handed _ => none
  | .lost => none

/-! ## Failing, panicking and cancelling -/

/-- The system fails a call: its signals cannot be handled, which is tried before anything is bound,
or the accepting of connections breaks off, which closes the listener. -/
def failTask (d : Daemon) (i : Nat) (task : Task) (fault : SystemError) : Option Daemon :=
  match task.stage with
  | .binding => some (d.setStage i (.returned (.error (.signal fault))))
  | .accepting =>
      some ((d.closeTask task).updateTask i fun task =>
        { task with stage := .closed, failure := some fault })
  | _ => none

/-- Lets the interrupt of a call panic, which can happen as long as its watcher waits for it. -/
def panicTask (d : Daemon) (i : Nat) (task : Task) : Option Daemon :=
  if task.watcher = .waiting ∧ task.interrupt = none then some (d.setWatcher i .lost) else none

/-- Cancels a call: what it still owns ends. Its watcher goes on. -/
def cancelTask (d : Daemon) (i : Nat) (task : Task) : Option Daemon :=
  if task.stage.isOver then none
  else
    let closed := if task.stage.isOpen then d.closeTask task else d
    let dropped := if task.stage.ownsFile then closed.dropTask task else closed
    some (dropped.setStage i .cancelled)

/-! ## Endpoints that are not served -/

/-- Lets an endpoint that is not served go out of scope; tells whether its file was removed. -/
def dropEndpoint (d : Daemon) (endpoint : Endpoint) : Bool × Daemon :=
  let ended := endpoint.drop d.host
  (ended.removed, d.afterEnd ended)

/-- Takes an endpoint that is not served apart, and releases its guard; tells whether its file was
removed. -/
def releaseEndpoint (d : Daemon) (endpoint : Endpoint) : Bool × Daemon :=
  let ended := endpoint.release d.host
  (ended.removed, d.afterEnd ended)

/-! ## Moves -/

inductive Move where
  /-- A bind call begins: an endpoint is bound for the configured transport. -/
  | bind
  /-- A bind call ends: its endpoint is announced. -/
  | announce
  /-- An endpoint is bound past the daemon, for any transport. -/
  | bindAt (transport : Transport)
  /-- An endpoint begins to be served. -/
  | serve (endpoint : Endpoint)
  /-- A call that binds and serves begins. -/
  | run
  | requestStop
  /-- The interrupt of a call comes. -/
  | interrupt (task : Nat) (trigger : Trigger)
  /-- A call takes its next step. -/
  | advance (task : Nat)
  /-- A watcher takes its next step; a waiting one takes the trigger. -/
  | watch (task : Nat) (trigger : Trigger)
  /-- The system fails a call. -/
  | fail (task : Nat) (fault : SystemError)
  /-- The interrupt of a call panics. -/
  | panic (task : Nat)
  | cancel (task : Nat)
  /-- A client makes a call. -/
  | call (address : Address) (limit : Duration) (call : Client.Call)
  /-- An endpoint that is not served goes out of scope: its owner lets it go, or fails. -/
  | drop (endpoint : Endpoint)
  /-- An endpoint that is not served is taken apart, and its guard is released. -/
  | release (endpoint : Endpoint)
  /-- Somebody else changes the file system. -/
  | meddle (files : FileSystem)

/-- The daemon after a move; none if the move cannot be made. -/
def step (d : Daemon) : Move → Option Daemon
  | .bind => some d.beginBind
  | .announce => d.endBind
  | .bindAt transport => some (d.bindAt transport).2
  | .serve endpoint => some (d.serve endpoint)
  | .run => some d.run
  | .requestStop => some d.requestStop
  | .interrupt i trigger => some (d.interrupt i trigger)
  | .advance i => (d.tasks[i]?).bind fun task => d.advanceTask i task
  | .watch i trigger => (d.tasks[i]?).bind fun task => d.advanceWatcher i task trigger
  | .fail i fault => (d.tasks[i]?).bind fun task => d.failTask i task fault
  | .panic i => (d.tasks[i]?).bind fun task => d.panicTask i task
  | .cancel i => (d.tasks[i]?).bind fun task => d.cancelTask i task
  | .call address limit call => some (d.call address limit call).2
  | .drop endpoint => some (d.dropEndpoint endpoint).2
  | .release endpoint => some (d.releaseEndpoint endpoint).2
  | .meddle files => some { d with host := { d.host with files := files } }

/-- One daemon comes from another by one move. -/
def Steps (d d' : Daemon) : Prop :=
  ∃ move, d.step move = some d'

/-- One daemon comes from another by moves. -/
inductive Reaches : Daemon → Daemon → Prop where
  | refl (d : Daemon) : Reaches d d
  | step {d d' d'' : Daemon} : Reaches d d' → Steps d' d'' → Reaches d d''

end Beacon.Daemon
