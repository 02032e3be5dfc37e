import Beacon.Log.Event
import Beacon.Text.Decimal

/-!
# The record of requests

Every answered request leaves a record. Records are kept in a window of the latest ones, or
reported as log events.
-/

namespace Beacon

structure Record where
  service : String
  method : String
  path : String
  status : Nat
  deriving DecidableEq, Repr

namespace Record

def line (record : Record) : String :=
  "[" ++ record.service ++ "] " ++ record.method ++ " " ++ record.path

def event (record : Record) : Log.Event :=
  ⟨.info, .requests, record.line,
    [("service", .text record.service), ("method", .printed record.method),
      ("path", .printed record.path), ("status", .number record.status)]⟩

end Record

/-! ## Windows -/

/-- The latest entries of a sequence, at most as many as the capacity, oldest first. -/
structure Window (α : Type) where
  capacity : Nat
  entries : List α
  length_le : entries.length ≤ capacity

namespace Window

variable {α : Type}

def empty (capacity : Nat) : Window α :=
  ⟨capacity, [], Nat.zero_le capacity⟩

def size (w : Window α) : Nat :=
  w.entries.length

def isEmpty (w : Window α) : Bool :=
  w.entries.isEmpty

/-- The window before one more entry is put in: a full one has lost its oldest. -/
def makeRoom (w : Window α) : Window α :=
  if w.entries.length < w.capacity then w
  else ⟨w.capacity, w.entries.tail, Nat.le_trans (by simp) w.length_le⟩

@[simp] theorem capacity_makeRoom (w : Window α) : w.makeRoom.capacity = w.capacity := by
  unfold makeRoom
  split <;> rfl

theorem length_makeRoom_lt (w : Window α) (h : w.capacity ≠ 0) :
    w.makeRoom.entries.length < w.capacity := by
  have hlength := w.length_le
  unfold makeRoom
  split
  · assumption
  · rw [List.length_tail]
    omega

/-- Puts an entry in, after room was made for it; a window without any capacity takes none. -/
def push (w : Window α) (entry : α) : Window α :=
  if h : w.capacity = 0 then w
  else
    ⟨w.capacity, w.makeRoom.entries ++ [entry],
      by simpa using Nat.succ_le_of_lt (w.length_makeRoom_lt h)⟩

def pushAll (w : Window α) (entries : List α) : Window α :=
  entries.foldl push w

inductive Call (α : Type) where
  | push (entry : α)
  | entries
  | size
  | isEmpty

inductive Reply (α : Type) where
  | pushed
  | entries (shown : List α)
  | size (n : Nat)
  | isEmpty (answer : Bool)

/-- Makes a call: what it returns, and the window after it. -/
def call (w : Window α) : Call α → Reply α × Window α
  | .push entry => (.pushed, w.push entry)
  | .entries => (.entries w.entries, w)
  | .size => (.size w.size, w)
  | .isEmpty => (.isEmpty w.isEmpty, w)

/-- Makes calls, one after another: what they return, and the window after them. -/
def callAll (w : Window α) : List (Call α) → List (Reply α) × Window α
  | [] => ([], w)
  | call :: rest =>
      let answered := w.call call
      let later := answered.2.callAll rest
      (answered.1 :: later.1, later.2)

end Window

/-! ## Sinks -/

inductive Sink where
  /-- They are kept in a window. -/
  | kept (window : Window Record)
  /-- They are reported as log events. -/
  | logged

namespace Sink

/-- Takes a record: the sink after it and the events reported. -/
def record (sink : Sink) (entry : Record) : Sink × List Log.Event :=
  match sink with
  | .kept window => (.kept (window.push entry), [])
  | .logged => (.logged, [entry.event])

def recordAll (sink : Sink) : List Record → Sink × List Log.Event
  | [] => (sink, [])
  | entry :: rest =>
      let first := sink.record entry
      let later := recordAll first.1 rest
      (later.1, first.2 ++ later.2)

def records : Sink → List Record
  | .kept window => window.entries
  | .logged => []

end Sink

end Beacon
