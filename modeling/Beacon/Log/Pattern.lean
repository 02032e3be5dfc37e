import Beacon.Text.Alphanumeric

/-!
# Patterns of field values

A log filter can ask for the values of a field by a regular expression. Nothing that is logged here
is inside a span, so no value is ever looked at; but a pattern that is malformed spoils the whole
filter. A pattern is read from left to right. It can hold no closing brace, which would end the
field, so whatever needs one is malformed: counted repetitions and names in braces.
-/

namespace Beacon.Log.Pattern

/-! ## Atoms -/

/-- What a character or an escape stands for. -/
inductive Atom where
  | literal (c : Char)
  /-- A set of characters. -/
  | set
  /-- A place between characters. -/
  | place
  deriving DecidableEq, Repr

def hexDigit? (c : Char) : Option Nat :=
  if '0' ≤ c ∧ c ≤ '9' then some (c.toNat - 48)
  else if 'a' ≤ c ∧ c ≤ 'f' then some (c.toNat - 87)
  else if 'A' ≤ c ∧ c ≤ 'F' then some (c.toNat - 55)
  else none

def scalar? (n : Nat) : Option Char :=
  if n.isValidChar then some (Char.ofNat n) else none

/-- Reads a character that is given by a number of hexadecimal digits. -/
def readHex (count : Nat) (text : List Char) : Option (Atom × List Char) := do
  let digits ← (text.take count).mapM hexDigit?
  if digits.length < count then none
  let c ← scalar? (digits.foldl (fun total digit => total * 16 + digit) 0)
  return (.literal c, text.drop count)

def categories : List Char :=
  ['c', 'l', 'm', 'n', 'p', 's', 'z']

/-- The letters that stand for control characters after a backslash. -/
def controls : List (Char × Char) :=
  [('a', '\x07'), ('f', '\x0c'), ('t', '\t'), ('n', '\n'), ('r', '\r'), ('v', '\x0b')]

/-- Reads an escape after its backslash. The boundaries of words are not supported. -/
def readEscape : List Char → Option (Atom × List Char)
  | [] => none
  | c :: rest =>
      if c = 'x' then readHex 2 rest
      else if c = 'u' then readHex 4 rest
      else if c = 'U' then readHex 8 rest
      else if c = 'p' ∨ c = 'P' then
        match rest with
        | letter :: rest' => if letter.toLower ∈ categories then some (.set, rest') else none
        | [] => none
      else if c ∈ ['d', 's', 'w', 'D', 'S', 'W'] then some (.set, rest)
      else if c = 'A' ∨ c = 'z' then some (.place, rest)
      else
        match controls.lookup c with
        | some control => some (.literal control, rest)
        | none =>
            if c.toNat < 0x80 ∧ ¬c.isAlphanum ∧ c ≠ '<' ∧ c ≠ '>' then some (.literal c, rest)
            else none

/-! ## Classes -/

/-- The names of the classes that can be written between colons. -/
def classNames : List String :=
  ["alnum", "alpha", "ascii", "blank", "cntrl", "digit", "graph", "lower", "print", "punct",
    "space", "upper", "word", "xdigit"]

/-- What follows a class between colons, with the text after its opening bracket. -/
def afterNamedClass? : List Char → Option (List Char)
  | ':' :: rest =>
      let named := if rest.head? = some '^' then rest.tail else rest
      let name := named.takeWhile (· ≠ ':')
      match named.drop name.length with
      | ':' :: ']' :: rest' => if String.ofList name ∈ classNames then some rest' else none
      | _ => none
  | _ => none

/-- The text of a class after its opening bracket from its first ordinary member on: a caret there
takes the complement, and dashes, or else a closing bracket, stand for themselves. -/
def openClass (text : List Char) : List Char :=
  let members := if text.head? = some '^' then text.tail else text
  let plain := members.dropWhile (· = '-')
  if plain.length = members.length ∧ members.head? = some ']' then members.tail else plain

def readMember : List Char → Option (Atom × List Char)
  | [] => none
  | '\\' :: rest => readEscape rest
  | c :: rest => some (.literal c, rest)

/-- Whether a dash that stands before a text begins the second half of a range. -/
def joinsRange (text : List Char) : Bool :=
  text.head? != some ']' && text.head? != some '-'

def readRange (text : List Char) : Option (List Char) := do
  let (first, rest) ← readMember text
  match rest with
  | [] => none
  | '-' :: rest' =>
      if joinsRange rest' then
        let (last, after) ← readMember rest'
        match first, last with
        | .literal low, .literal high => if low ≤ high then some after else none
        | _, _ => none
      else if first = .place then none
      else some rest
  | _ => if first = .place then none else some rest

/-- Reads to the end of the classes that are open, of which there are `depth + 1`. Every step takes
at least one character, so their number bounds that of the steps. -/
def readClass : Nat → Nat → List Char → Option (List Char)
  | 0, _, _ => none
  | fuel + 1, depth, text =>
      match text with
      | [] => none
      | '[' :: rest =>
          match afterNamedClass? rest with
          | some rest' => readClass fuel depth rest'
          | none => readClass fuel (depth + 1) (openClass rest)
      | ']' :: rest =>
          match depth with
          | 0 => some rest
          | depth + 1 => readClass fuel depth rest
      | '&' :: '&' :: rest => readClass fuel depth rest
      | '-' :: '-' :: rest => readClass fuel depth rest
      | '~' :: '~' :: rest => readClass fuel depth rest
      | _ => (readRange text).bind (readClass fuel depth)

/-! ## Groups -/

def flagLetters : List Char :=
  ['i', 'm', 's', 'U', 'u', 'x', 'R']

/-- Whether letters set flags: each one at most once, with at most one dash among them, which is not
the last of them. -/
def areFlags (letters : List Char) : Bool :=
  letters.all (fun c => c = '-' || flagLetters.contains c) && letters.Nodup &&
    letters.getLast? != some '-'

def isGroupName : List Char → Bool
  | [] => false
  | first :: rest =>
      (first = '_' || Text.isAlphanumeric first && !first.isDigit) &&
        rest.all fun c => c = '_' || c = '.' || c = '[' || c = ']' || Text.isAlphanumeric c

inductive Opening where
  | group (name : Option (List Char))
  /-- Flags for what follows, which are no group and are closed already. -/
  | flags

/-- Reads the name of a group, which ends in an angle bracket. -/
def readName (text : List Char) : Option (Opening × List Char) :=
  let name := text.takeWhile (· ≠ '>')
  match text.drop name.length with
  | _ :: rest => if isGroupName name then some (.group (some name), rest) else none
  | [] => none

def readOpening : List Char → Option (Opening × List Char)
  | '?' :: 'P' :: '<' :: rest => readName rest
  | '?' :: '<' :: rest => readName rest
  | '?' :: rest =>
      let letters := rest.takeWhile fun c => c ≠ ':' && c ≠ ')'
      match rest.drop letters.length with
      | ':' :: rest' => if areFlags letters then some (.group none, rest') else none
      | ')' :: rest' => if areFlags letters ∧ letters ≠ [] then some (.flags, rest') else none
      | _ => none
  | rest => some (.group none, rest)

/-! ## Whole patterns -/

/-- How far the reading of a pattern has come. -/
structure Reading where
  /-- The number of groups that are open. -/
  depth : Nat
  /-- Whether something stands here that can be repeated. -/
  repeatable : Bool
  /-- The names of the groups so far. -/
  names : List (List Char)

/-- Reads what one character begins; none if it is malformed. -/
def Reading.next (reading : Reading) (c : Char) (rest : List Char) :
    Option (Reading × List Char) :=
  match c with
  | '(' =>
      match readOpening rest with
      | some (.group none, rest') =>
          some ({ reading with depth := reading.depth + 1, repeatable := false }, rest')
      | some (.group (some name), rest') =>
          if name ∈ reading.names then none
          else some (⟨reading.depth + 1, false, name :: reading.names⟩, rest')
      | some (.flags, rest') => some ({ reading with repeatable := false }, rest')
      | none => none
  | ')' =>
      match reading.depth with
      | 0 => none
      | depth + 1 => some ({ reading with depth := depth, repeatable := true }, rest)
  | '|' => some ({ reading with repeatable := false }, rest)
  | '[' =>
      (readClass (rest.length + 1) 0 (openClass rest)).map fun rest' =>
        ({ reading with repeatable := true }, rest')
  | '\\' => (readEscape rest).map fun found => ({ reading with repeatable := true }, found.2)
  | '\x7b' => none
  | _ =>
      if c = '?' ∨ c = '*' ∨ c = '+' then
        if reading.repeatable then
          some (reading, if rest.head? = some '?' then rest.tail else rest)
        else none
      else some ({ reading with repeatable := true }, rest)

/-- Whether the rest of a pattern is well formed. Every step takes at least one character, so their
number bounds that of the steps. -/
def wellFormedFrom : Nat → Reading → List Char → Bool
  | _, reading, [] => reading.depth == 0
  | 0, _, _ => false
  | fuel + 1, reading, c :: rest =>
      match reading.next c rest with
      | some (reading', rest') => wellFormedFrom fuel reading' rest'
      | none => false

def wellFormed (text : List Char) : Bool :=
  wellFormedFrom text.length ⟨0, false, []⟩ text

/-! ## Numbers -/

def afterDigits (text : List Char) : List Char :=
  text.dropWhile Char.isDigit

def isExponent : List Char → Bool
  | [] => true
  | c :: rest =>
      let digits := if rest.head? = some '+' ∨ rest.head? = some '-' then rest.tail else rest
      (c = 'e' || c = 'E') && !digits.isEmpty && digits.all Char.isDigit

/-- Whether a text without a sign is a decimal number or the name of a number. -/
def isUnsigned (text : List Char) : Bool :=
  let tail := afterDigits text
  let decimal :=
    match tail with
    | '.' :: fraction =>
        (tail.length < text.length || fraction.head?.any Char.isDigit) &&
          isExponent (afterDigits fraction)
    | _ => tail.length < text.length && isExponent tail
  decimal || ["inf", "infinity", "nan"].contains (String.ofList (text.map Char.toLower))

/-- Whether a text can be asked for as the value of a field. A number may have a plus sign, which
no pattern can start with. -/
def asksForValue (text : List Char) : Bool :=
  match text with
  | '+' :: rest => isUnsigned rest
  | _ => wellFormed text

end Beacon.Log.Pattern
