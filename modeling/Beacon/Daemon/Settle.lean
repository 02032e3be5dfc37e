import Beacon.Daemon.Step

/-!
# Settling

One fair order of a daemon's steps: whenever it is given time, every watcher goes as far as it
can, then every call, until nothing moves. An interrupt that has come goes before a stop request.
-/

namespace Beacon.Daemon

def firstTrigger (d : Daemon) (task : Task) : Trigger :=
  (d.triggers task).headD .requested

def runWatcher : Nat → Daemon → Nat → Daemon
  | 0, d, _ => d
  | count + 1, d, i =>
      match d.tasks[i]? with
      | none => d
      | some task =>
          match d.advanceWatcher i task (d.firstTrigger task) with
          | none => d
          | some after => runWatcher count after i

/-- Takes up to a number of steps of a call; one that is to be cancelled is. -/
def runTask : Nat → Daemon → Nat → Daemon
  | 0, d, _ => d
  | count + 1, d, i =>
      match d.tasks[i]? with
      | none => d
      | some task =>
          if task.aborting then (d.cancelTask i task).getD d
          else
            match d.advanceTask i task with
            | none => d
            | some after => runTask count after i

/-- The most steps that a party has between its beginning and its end. -/
def longestRun : Nat := 12

def turn (d : Daemon) : Daemon :=
  let indices := List.range d.tasks.length
  let watched := indices.foldl (runWatcher longestRun) d
  indices.foldl (runTask longestRun) watched

/-- Gives the daemon time until nothing moves: a call that begins and is stopped at once needs
two turns. -/
def settle (d : Daemon) : Daemon :=
  d.turn.turn.turn

end Beacon.Daemon
