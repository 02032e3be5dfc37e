/-!
# Phases and triggers

The phases that a daemon goes through, in order, and what can end its serving.
-/

namespace Beacon

inductive Phase where
  | unstarted
  | bound
  | serving
  | shuttingDown
  | stopped
  deriving DecidableEq, Repr

namespace Phase

def rank : Phase → Nat
  | .unstarted => 0
  | .bound => 1
  | .serving => 2
  | .shuttingDown => 3
  | .stopped => 4

def chain : List Phase :=
  [.unstarted, .bound, .serving, .shuttingDown, .stopped]

def name : Phase → String
  | .unstarted => "Unstarted"
  | .bound => "Bound"
  | .serving => "Serving"
  | .shuttingDown => "ShuttingDown"
  | .stopped => "Stopped"

def ofName? (name : String) : Option Phase :=
  chain.find? fun phase => phase.name == name

def compare (a b : Phase) : Ordering :=
  Ord.compare a.rank b.rank

def latest? : List Phase → Option Phase
  | [] => none
  | first :: rest => some (rest.foldl (fun best p => if best.rank ≤ p.rank then p else best) first)

def sort (phases : List Phase) : List Phase :=
  phases.mergeSort fun a b => a.rank ≤ b.rank

end Phase

inductive Trigger where
  /-- The interrupt signal. -/
  | interrupt
  /-- The termination signal. -/
  | terminate
  /-- A stop request. -/
  | requested
  deriving DecidableEq, Repr

namespace Trigger

def name : Trigger → String
  | .interrupt => "Interrupt"
  | .terminate => "Terminate"
  | .requested => "Requested"

def ofName? (name : String) : Option Trigger :=
  [.interrupt, .terminate, .requested].find? fun trigger => trigger.name == name

def text : Trigger → String
  | .interrupt => "SIGINT"
  | .terminate => "SIGTERM"
  | .requested => "stop request"

end Trigger

end Beacon
