import Beacon.Program

/-!
# The command line

Runs the program on the arguments and the environment of the process. The host it works on is the
one of `Beacon.Host`, with nothing on it but the root directory; a service that is started there
is interrupted when the standard input ends.
-/

namespace Beacon.Main

def readEnvironment : IO (Setting → Option Octets) := do
  let values ← Setting.all.mapM fun setting => do
    return (setting, (← IO.getEnv setting.name).map Utf8.octets)
  return fun setting => (values.lookup setting).join

/-- Waits for the end of the standard input. -/
partial def awaitEnd (input : IO.FS.Stream) : IO Unit := do
  let line ← input.getLine
  if line.isEmpty then return else awaitEnd input

def report (outcome : Outcome) : IO UInt32 := do
  outcome.output.forM IO.println
  outcome.errors.forM IO.eprintln
  return UInt32.ofNat outcome.status

/-- The service that the program is run as, by the name of its executable file. -/
def ownIdentity : IO Identity := do
  let name := (← IO.appPath).fileStem.getD ""
  return if name = Identity.cache.name then .cache else .api

end Beacon.Main

open Beacon Beacon.Main

def main (arguments : List String) : IO UInt32 := do
  let filter := (← IO.getEnv Invocation.filterVariable).map Utf8.octets
  let invocation : Invocation :=
    ⟨← ownIdentity, arguments.map Utf8.octets, ← readEnvironment, filter⟩
  let host := Host.idle ⟨[], []⟩ true
  let find (address : Address) := (host.reach address).map fun found => (found, Client.Peer.silent)
  match invocation.launch host find with
  | .over outcome _ => report outcome
  | .serving serving daemon =>
      let settled := daemon.settle
      match serving.outcome? settled with
      | some outcome => report outcome
      | none =>
          awaitEnd (← IO.getStdin)
          let stopped := (settled.interrupt 0 .interrupt).settle
          match serving.outcome? stopped with
          | some outcome => report outcome
          | none => return 1
