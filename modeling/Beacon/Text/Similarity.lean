/-!
# Similarity of words

The Jaro similarity of two words, for suggesting the word that was meant. Characters match when
they are equal and stand within half the longer length of each other; the similarity is the mean of
the matched share of either word and the share of the matches that stand in the same order. It is
reckoned in doubles: every step is rounded, and so words whose similarity is just at the limit by
exact reckoning may come to lie above it, and one of two equally similar words above the other.
-/

namespace Beacon.Similarity

/-- The first unused occurrence of a character at an index from `low` to below `high`. -/
def findFrom (c : Char) (low high : Nat) (word : List Char) (used : List Nat) : Option Nat :=
  (List.range word.length).find? fun j =>
    low ≤ j && j < high && word[j]? == some c && !used.contains j

/-- The matched index pairs of two words, in the order of the first. -/
def pairs (first second : List Char) : List (Nat × Nat) :=
  let reach := max first.length second.length / 2 - 1
  let step (found : List (Nat × Nat)) (entry : Char × Nat) : List (Nat × Nat) :=
    let i := entry.2
    match findFrom entry.1 (i - reach) (i + reach + 1) second (found.map (·.2)) with
    | some j => found ++ [(i, j)]
    | none => found
  first.zipIdx.foldl step []

structure Ratio where
  num : Nat
  den : Nat

namespace Ratio

def gt (a b : Ratio) : Bool :=
  b.num * a.den < a.num * b.den

/-- The number of places by which a fraction must be moved to the left for its whole part to have
53 binary digits. -/
def places (x : Ratio) : Nat :=
  ((List.range 256).find? fun k => Nat.pow 2 52 * x.den ≤ x.num * Nat.pow 2 k).getD 0

/-- The double nearest to a fraction that is not large; of two the one with an even last digit. -/
def round (x : Ratio) : Ratio :=
  let unit := Nat.pow 2 x.places
  let whole := x.num * unit / x.den
  let left := x.num * unit % x.den
  let down := 2 * left < x.den || (2 * left == x.den && whole % 2 == 0)
  ⟨if down then whole else whole + 1, unit⟩

def plus (a b : Ratio) : Ratio :=
  round ⟨a.num * b.den + b.num * a.den, a.den * b.den⟩

def divide (a : Ratio) (n : Nat) : Ratio :=
  round ⟨a.num, a.den * n⟩

end Ratio

def jaro (first second : List Char) : Ratio :=
  if first = [] ∧ second = [] then ⟨1, 1⟩
  else
    let matched := pairs first second
    let m := matched.length
    if m = 0 then ⟨0, 1⟩
    else
      let ordered := (matched.map (·.2)).mergeSort (· ≤ ·)
      let moved := (matched.zip ordered).countP fun (pair, j) => first[pair.1]? ≠ second[j]?
      let share (part whole : Nat) : Ratio := Ratio.round ⟨part, whole⟩
      let found := (share m first.length).plus (share m second.length)
      (found.plus (share (m - moved / 2) m)).divide 3

/-- A similarity above this one is close. -/
def limit : Ratio :=
  Ratio.round ⟨7, 10⟩

/-- The candidates that are similar enough to a word to be meant, the most similar last. -/
def suggestions (word : String) (candidates : List String) : List String :=
  let scored := candidates.map fun candidate => (jaro word.toList candidate.toList, candidate)
  let close := scored.filter fun entry => entry.1.gt limit
  (close.mergeSort fun x y => !x.1.gt y.1).map (·.2)

end Beacon.Similarity
