import Beacon.Text.Decimal
import Beacon.Text.Quoted
import Beacon.Text.Utf8

/-!
# Faults in JSON text

Why a JSON text is refused, and where. A fault carries the octets that follow its place, so its
line and column are found from the whole text afterwards.
-/

namespace Beacon.Json

/-- A value of a kind that is not wanted where it stands. -/
inductive Unexpected where
  | null
  | boolean (value : Bool)
  | integer (value : Int)
  /-- A number that is no integer of the machine's range, by its shortest text. -/
  | float (text : String)
  | string (value : List Char)
  | sequence
  | map
  deriving DecidableEq, Repr

inductive Cause where
  | endInValue
  | endInString
  | endInObject
  | endInList
  | expectedValue
  | expectedIdent
  | expectedColon
  | expectedListCommaOrEnd
  | expectedObjectCommaOrEnd
  | keyMustBeString
  | trailingComma
  | trailingCharacters
  | invalidNumber
  | numberOutOfRange
  | invalidEscape
  | unexpectedEndOfHexEscape
  | loneSurrogate
  | controlCharacter
  | invalidUnicode
  /-- A value of the wrong kind, and what was wanted. -/
  | invalidType (found : Unexpected) (wanted : String)
  /-- A list that ends after too few elements, and what was wanted. -/
  | invalidLength (count : Nat) (wanted : String)
  | missingField (name : String)
  | duplicateField (name : String)
  deriving DecidableEq, Repr

def Unexpected.text : Unexpected → String
  | .null => "null"
  | .boolean value => "boolean `" ++ (if value then "true" else "false") ++ "`"
  | .integer (.ofNat n) => "integer `" ++ Decimal.numeral n ++ "`"
  | .integer (.negSucc n) => "integer `-" ++ Decimal.numeral (n + 1) ++ "`"
  | .float text => "floating point `" ++ text ++ "`"
  | .string value => "string " ++ Text.quote (String.ofList value)
  | .sequence => "sequence"
  | .map => "map"

def Cause.message : Cause → String
  | .endInValue => "EOF while parsing a value"
  | .endInString => "EOF while parsing a string"
  | .endInObject => "EOF while parsing an object"
  | .endInList => "EOF while parsing a list"
  | .expectedValue => "expected value"
  | .expectedIdent => "expected ident"
  | .expectedColon => "expected `:`"
  | .expectedListCommaOrEnd => "expected `,` or `]`"
  | .expectedObjectCommaOrEnd => "expected `,` or `\x7d`"
  | .keyMustBeString => "key must be a string"
  | .trailingComma => "trailing comma"
  | .trailingCharacters => "trailing characters"
  | .invalidNumber => "invalid number"
  | .numberOutOfRange => "number out of range"
  | .invalidEscape => "invalid escape"
  | .unexpectedEndOfHexEscape => "unexpected end of hex escape"
  | .loneSurrogate => "lone leading surrogate in hex escape"
  | .controlCharacter => "control character (\\u0000-\\u001F) found while parsing a string"
  | .invalidUnicode => "invalid unicode code point"
  | .invalidType found wanted => "invalid type: " ++ found.text ++ ", expected " ++ wanted
  | .invalidLength count wanted =>
      "invalid length " ++ Decimal.numeral count ++ ", expected " ++ wanted
  | .missingField name => "missing field `" ++ name ++ "`"
  | .duplicateField name => "duplicate field `" ++ name ++ "`"

/-- A refusal: its cause, and the octets that follow its place. -/
structure Fault where
  cause : Cause
  rest : Octets
  deriving DecidableEq, Repr

/-- A fault at the first of the given octets, which is looked at: the place is just after it, or
at the end of the text when nothing is left. -/
def Fault.peek (cause : Cause) (octets : Octets) : Fault :=
  ⟨cause, octets.drop 1⟩

/-- The outcome of reading something at the front of a text: what was read and what follows. -/
abbrev Reading (α : Type) := Except Fault (α × Octets)

/-! ## Places -/

def lineFeed : UInt8 := 10

/-- The number of the line that the end of the given octets lies on, counted from 1. -/
def lineAfter (octets : Octets) : Nat :=
  1 + octets.count lineFeed

def columnAfter (octets : Octets) : Nat :=
  (octets.reverse.takeWhile (· ≠ lineFeed)).length

def Fault.message (whole : Octets) (fault : Fault) : String :=
  let before := whole.take (whole.length - fault.rest.length)
  fault.cause.message ++ " at line " ++ Decimal.numeral (lineAfter before) ++ " column " ++
    Decimal.numeral (columnAfter before)

/-! ## Blanks between tokens -/

def isSpace (octet : UInt8) : Bool :=
  octet = 0x20 || octet = 0x0A || octet = 0x09 || octet = 0x0D

def skipSpace (octets : Octets) : Octets :=
  octets.dropWhile isSpace

end Beacon.Json
