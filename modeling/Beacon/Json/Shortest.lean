import Beacon.Text.Decimal

/-!
# Shortest decimal text of a binary fraction

The text of a double with the fewest digits that read back as the same double. The double is
taken apart into `mantissa * 2 ^ exponent`; of the decimal grids, the coarsest one with a point
in the interval of numbers that round to the double gives the digits, and of two such points the
nearer one is taken. Numbers from `10 ^ -5` to below `10 ^ 16` are written positionally, all
others with an exponent.
-/

namespace Beacon.Json

/-- A non-negative number `mantissa * 2 ^ exponent`, and whether the numbers just below it lie
closer together than those above it. -/
structure Binary where
  mantissa : Nat
  exponent : Int
  narrow : Bool
  deriving DecidableEq, Repr

namespace Binary

def ofFloat (x : Float) : Binary :=
  let bits := x.toBits.toNat
  let fraction := bits % Nat.pow 2 52
  let scale : Nat := bits / Nat.pow 2 52 % Nat.pow 2 11
  if scale = 0 then ⟨fraction, -1074, false⟩
  else ⟨Nat.pow 2 52 + fraction, Int.ofNat scale - 1075, fraction == 0 && scale != 1⟩

/-- The point of the grid of multiples of `10 ^ grid` that stands for a number: the nearest one
that lies in the interval of numbers rounding to it, if there is one. Everything is counted in
quarters of the last binary place. -/
def onGrid (x : Binary) (grid : Int) : Option Nat :=
  let quarter := x.exponent - 2
  let scale := Nat.pow 2 quarter.toNat * Nat.pow 10 (-grid).toNat
  let unit := Nat.pow 2 (-quarter).toNat * Nat.pow 10 grid.toNat
  let value := 4 * x.mantissa * scale
  let low := (4 * x.mantissa - if x.narrow then 1 else 2) * scale
  let high := (4 * x.mantissa + 2) * scale
  let inside (n : Nat) : Bool :=
    if x.mantissa % 2 = 0 then low ≤ n * unit && n * unit ≤ high
    else low < n * unit && n * unit < high
  let below := value / unit
  let above := below + 1
  if inside below && below != 0 then
    if inside above && above * unit - value < value - below * unit then some above
    else some below
  else if inside above then some above
  else none

/-- The digits and the grid of the shortest decimal text of a positive number. -/
def shortest (x : Binary) : Nat × Int :=
  let grids := (List.range 660).map fun (i : Nat) => (310 : Int) - (i : Int)
  match grids.findSome? fun grid => (x.onGrid grid).map fun n => (n, grid) with
  | some found => found
  | none => (0, 0)

end Binary

/-- Positional numbers have a leading digit at `10 ^ -5` or above, and below `10 ^ 16`. -/
def isPositional (leading : Int) : Bool :=
  -5 ≤ leading && leading < 16

def decimalText (digits : List Char) (grid : Int) : List Char :=
  let leading := grid + digits.length - 1
  if isPositional leading then
    if 0 ≤ grid then digits ++ List.replicate grid.toNat '0' ++ ['.', '0']
    else if 0 ≤ leading then
      digits.take (leading.toNat + 1) ++ ['.'] ++ digits.drop (leading.toNat + 1)
    else ['0', '.'] ++ List.replicate ((-leading).toNat - 1) '0' ++ digits
  else
    let fraction :=
      match digits.drop 1 with
      | [] => []
      | rest => '.' :: rest
    let sign := if leading < 0 then '-' else '+'
    digits.take 1 ++ fraction ++ ['e', sign] ++ Decimal.digits leading.natAbs

def floatText (x : Float) : String :=
  let sign := if x.toBits.toNat / Nat.pow 2 63 = 1 then ['-'] else []
  let binary := Binary.ofFloat x
  if binary.mantissa = 0 then String.ofList (sign ++ ['0', '.', '0'])
  else
    let found := binary.shortest
    String.ofList (sign ++ decimalText (Decimal.digits found.1) found.2)

end Beacon.Json
