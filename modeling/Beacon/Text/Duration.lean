import Beacon.Text.Decimal

/-!
# Durations

Lengths of time in whole nanoseconds, and their shortest exact text: the largest unit that leaves
a whole part, then the fraction without trailing zeros.
-/

namespace Beacon

structure Duration where
  nanos : Nat
  deriving DecidableEq, Repr

namespace Duration

def ofSeconds (n : Nat) : Duration := ⟨n * 1000000000⟩

def ofMillis (n : Nat) : Duration := ⟨n * 1000000⟩

/-- A fraction of `places` decimal places, with its point; nothing when it is zero. -/
def fraction (places n : Nat) : List Char :=
  match (Decimal.padded places n).reverse.dropWhile (· = '0') with
  | [] => []
  | shown => '.' :: shown.reverse

/-- The number of nanoseconds `n` in a unit of `10 ^ places` nanoseconds. -/
def inUnit (places n : Nat) (unit : String) : String :=
  String.ofList (Decimal.digits (n / Nat.pow 10 places) ++
    fraction places (n % Nat.pow 10 places)) ++ unit

def text (d : Duration) : String :=
  if Nat.pow 10 9 ≤ d.nanos then inUnit 9 d.nanos "s"
  else if Nat.pow 10 6 ≤ d.nanos then inUnit 6 d.nanos "ms"
  else if Nat.pow 10 3 ≤ d.nanos then inUnit 3 d.nanos "µs"
  else Decimal.numeral d.nanos ++ "ns"

end Duration

end Beacon
