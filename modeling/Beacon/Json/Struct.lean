import Beacon.Json.Skip

/-!
# Records of strings

A record has named string fields in a declared order. Its written form is an object with the
fields in that order and nothing between them. Reading accepts an object with every field once,
in any order and among other members, or a list of exactly the fields' values.
-/

namespace Beacon.Json

/-- The shape of a record: its name, for messages, and its fields in declared order. -/
structure Shape where
  name : String
  fields : List String
  deriving DecidableEq, Repr

namespace Shape

/-! ## Writing -/

def writeMember (field value : String) : List Char :=
  writeString field.toList ++ [':'] ++ writeString value.toList

/-- The written form of the members, with commas between them. -/
def writeMembers : List (String × String) → List Char
  | [] => []
  | [(field, value)] => writeMember field value
  | (field, value) :: rest => writeMember field value ++ [','] ++ writeMembers rest

/-- The written form of a record with the given values, in declared order. -/
def write (shape : Shape) (values : List String) : List Char :=
  ['\x7b'] ++ writeMembers (shape.fields.zip values) ++ ['\x7d']

/-! ## Values of the wrong kind -/

/-- The fault of a value of the wrong kind, which starts at the first of the given octets. -/
def wrongKind (wanted : String) (octets : Octets) : Fault :=
  let afterWord (word : List UInt8) (found : Unexpected) : Fault :=
    match expectWord word octets with
    | .ok rest => ⟨.invalidType found wanted, rest⟩
    | .error fault => fault
  match octets with
  | [] => .peek .expectedValue []
  | octet :: rest =>
      if octet = 0x6E then afterWord nullWord .null
      else if octet = 0x74 then afterWord trueWord (.boolean true)
      else if octet = 0x66 then afterWord falseWord (.boolean false)
      else if octet = minusSign ∨ isDigit octet then
        match readNumber octets with
        | .ok (found, rest') => ⟨.invalidType found wanted, rest'⟩
        | .error fault => fault
      else if octet = quoteMark then
        match readString rest with
        | .ok (text, rest') => ⟨.invalidType (.string text) wanted, rest'⟩
        | .error fault => fault
      else if octet = openList then ⟨.invalidType .sequence wanted, octets⟩
      else if octet = openObject then ⟨.invalidType .map wanted, octets⟩
      else .peek .expectedValue octets

def readField (octets : Octets) : Reading String :=
  match skipSpace octets with
  | [] => .error (.peek .endInValue [])
  | octet :: rest =>
      if octet = quoteMark then
        (readString rest).map fun (text, rest') => (String.ofList text, rest')
      else .error (wrongKind "a string" (octet :: rest))

/-! ## Lists -/

def title (shape : Shape) : String :=
  "struct " ++ shape.name

def titleWithSize (shape : Shape) : String :=
  shape.title ++ " with " ++ Decimal.numeral shape.fields.length ++ " elements"

/-- Moves to the next element of a list, or past the closing bracket when there is none. -/
def nextElement (first : Bool) (octets : Octets) : Except Fault (Option Octets × Octets) :=
  match skipSpace octets with
  | [] => .error (.peek .endInList [])
  | octet :: rest =>
      if octet = closeList then .ok (none, rest)
      else if first then .ok (some (octet :: rest), [])
      else if octet = comma then
        match skipSpace rest with
        | [] => .error (.peek .endInValue [])
        | next :: tail =>
            if next = closeList then .error (.peek .trailingComma (next :: tail))
            else .ok (some (next :: tail), [])
      else .error (.peek .expectedListCommaOrEnd (octet :: rest))

def readElements (shape : Shape) : Nat → List String → Octets → Reading (List String)
  | _, [], octets => .ok ([], octets)
  | index, _ :: later, octets =>
      match nextElement (index = 0) octets with
      | .error fault => .error fault
      | .ok (none, rest) => .error ⟨.invalidLength index shape.titleWithSize, rest⟩
      | .ok (some start, _) =>
          match readField start with
          | .error fault => .error fault
          | .ok (value, rest) =>
              (readElements shape (index + 1) later rest).map fun (values, final) =>
                (value :: values, final)

def closeElements (octets : Octets) : Except Fault Octets :=
  match skipSpace octets with
  | [] => .error (.peek .endInList [])
  | octet :: rest =>
      if octet = closeList then .ok rest
      else if octet = comma then
        match skipSpace rest with
        | [] => .error (.peek .trailingCharacters [])
        | next :: tail =>
            if next = closeList then .error (.peek .trailingComma (next :: tail))
            else .error (.peek .trailingCharacters (next :: tail))
      else .error (.peek .trailingCharacters (octet :: rest))

/-! ## Objects -/

/-- Where the next member of an object starts. -/
inductive NextKey where
  /-- After the opening quote of a key. -/
  | key (rest : Octets)
  /-- There is none: after the closing brace. -/
  | done (rest : Octets)

/-- Moves to the next key of an object, or past its closing brace. -/
def nextKey (first : Bool) (octets : Octets) : Except Fault NextKey :=
  match skipSpace octets with
  | [] => .error (.peek .endInObject [])
  | octet :: rest =>
      if octet = closeObject then .ok (.done rest)
      else if first then
        if octet = quoteMark then .ok (.key rest)
        else .error (.peek .keyMustBeString (octet :: rest))
      else if octet = comma then
        match skipSpace rest with
        | [] => .error (.peek .endInValue [])
        | next :: tail =>
            if next = quoteMark then .ok (.key tail)
            else if next = closeObject then .error (.peek .trailingComma (next :: tail))
            else .error (.peek .keyMustBeString (next :: tail))
      else .error (.peek .expectedObjectCommaOrEnd (octet :: rest))

/-- The place of a repeated field: after the blanks that follow its key, and after the brace that
stands there, if one does. -/
def repeatedPlace (octets : Octets) : Octets :=
  match skipSpace octets with
  | octet :: rest => if octet = closeObject then rest else octet :: rest
  | [] => []

/-- Reads the members of an object after those already found. Every member takes at least its
closing quote, so the text's length bounds their number. -/
def readMembers (shape : Shape) :
    Nat → List (String × String) → Bool → Octets → Reading (List (String × String))
  | 0, _, _, _ => .error ⟨.endInObject, []⟩
  | fuel + 1, found, first, octets =>
      match nextKey first octets with
      | .error fault => .error fault
      | .ok (.done rest) => .ok (found, rest)
      | .ok (.key start) =>
          match readString start with
          | .error fault => .error fault
          | .ok (text, afterKey) =>
              let key := String.ofList text
              if key ∈ shape.fields then
                if key ∈ found.map (·.1) then
                  .error ⟨.duplicateField key, repeatedPlace afterKey⟩
                else
                  match (readColon afterKey).bind readField with
                  | .error fault => .error fault
                  | .ok (value, rest) =>
                      readMembers shape fuel (found ++ [(key, value)]) false rest
              else
                match (readColon afterKey).bind skipValue with
                | .error fault => .error fault
                | .ok rest => readMembers shape fuel found false rest

/-- The values of the fields in declared order; the first one that is missing is at fault. -/
def collect (found : List (String × String)) (rest : Octets) :
    List String → Except Fault (List String)
  | [] => .ok []
  | field :: later =>
      match found.lookup field with
      | some value => (collect found rest later).map (value :: ·)
      | none => .error ⟨.missingField field, rest⟩

/-! ## Whole texts -/

/-- Reads a record, and gives the values of its fields in declared order. -/
def read (shape : Shape) (octets : Octets) : Reading (List String) :=
  match skipSpace octets with
  | [] => .error (.peek .endInValue [])
  | octet :: rest =>
      if octet = openList then
        match readElements shape 0 shape.fields rest with
        | .error fault => .error fault
        | .ok (values, final) => (closeElements final).map fun after => (values, after)
      else if octet = openObject then
        match readMembers shape (rest.length + 1) [] true rest with
        | .error fault => .error fault
        | .ok (found, final) =>
            (collect found final shape.fields).map fun values => (values, final)
      else .error (wrongKind shape.title (octet :: rest))

/-- Decodes a text that is a record and nothing else but blanks. -/
def decode (shape : Shape) (octets : Octets) : Except Fault (List String) :=
  match shape.read octets with
  | .error fault => .error fault
  | .ok (values, rest) =>
      match skipSpace rest with
      | [] => .ok values
      | octet :: tail => .error (.peek .trailingCharacters (octet :: tail))

end Shape

end Beacon.Json
