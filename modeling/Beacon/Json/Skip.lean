import Beacon.Json.Number
import Beacon.Json.Text

/-!
# Passing over values

The value of a member that is not asked for is passed over: it must be a JSON value, but its
strings need not be UTF-8, its surrogates need not be paired, and its numbers may be of any size.
There is no limit on nesting.
-/

namespace Beacon.Json

def expectWord : List UInt8 → Octets → Except Fault Octets
  | [], octets => .ok octets
  | _ :: _, [] => .error ⟨.endInValue, []⟩
  | wanted :: word, octet :: rest =>
      if octet = wanted then expectWord word rest else .error ⟨.expectedIdent, rest⟩

/-- The octets of the words `null`, `true` and `false`. -/
def nullWord : List UInt8 := [0x6E, 0x75, 0x6C, 0x6C]

def trueWord : List UInt8 := [0x74, 0x72, 0x75, 0x65]

def falseWord : List UInt8 := [0x66, 0x61, 0x6C, 0x73, 0x65]

/-- The octets of the punctuation marks. -/
def comma : UInt8 := 0x2C

def colon : UInt8 := 0x3A

def openList : UInt8 := 0x5B

def closeList : UInt8 := 0x5D

def openObject : UInt8 := 0x7B

def closeObject : UInt8 := 0x7D

def readColon (octets : Octets) : Except Fault Octets :=
  match skipSpace octets with
  | octet :: rest =>
      if octet = colon then .ok rest else .error (.peek .expectedColon (octet :: rest))
  | [] => .error (.peek .endInObject [])

inductive Part where
  /-- A value. -/
  | value
  /-- What follows an element of a list. -/
  | afterElement
  /-- A member of an object, from its key on. -/
  | member
  /-- What follows a member of an object. -/
  | afterMember
  deriving DecidableEq, Repr

/-- Passes over a part of a value. Every call reads at least one octet before the next one, so
the text's length bounds the depth. -/
def skipPart : Nat → Part → Octets → Except Fault Octets
  | 0, _, _ => .error ⟨.endInValue, []⟩
  | fuel + 1, .value, octets =>
      match skipSpace octets with
      | [] => .error (.peek .endInValue [])
      | octet :: rest =>
          if octet = 0x6E then expectWord nullWord (octet :: rest)
          else if octet = 0x74 then expectWord trueWord (octet :: rest)
          else if octet = 0x66 then expectWord falseWord (octet :: rest)
          else if octet = minusSign ∨ isDigit octet then skipNumber (octet :: rest)
          else if octet = quoteMark then skipString rest
          else if octet = openList then
            match skipSpace rest with
            | [] => .error (.peek .endInList [])
            | next :: tail =>
                if next = closeList then .ok tail
                else (skipPart fuel .value rest).bind (skipPart fuel .afterElement)
          else if octet = openObject then
            match skipSpace rest with
            | [] => .error (.peek .endInObject [])
            | next :: tail =>
                if next = closeObject then .ok tail
                else skipPart fuel .member rest
          else .error (.peek .expectedValue (octet :: rest))
  | fuel + 1, .afterElement, octets =>
      match skipSpace octets with
      | [] => .error (.peek .endInList [])
      | octet :: rest =>
          if octet = comma then (skipPart fuel .value rest).bind (skipPart fuel .afterElement)
          else if octet = closeList then .ok rest
          else .error (.peek .expectedListCommaOrEnd (octet :: rest))
  | fuel + 1, .member, octets =>
      match skipSpace octets with
      | [] => .error (.peek .endInObject [])
      | octet :: rest =>
          if octet = quoteMark then
            (skipString rest).bind fun afterKey =>
              (readColon afterKey).bind fun afterColon =>
                (skipPart fuel .value afterColon).bind (skipPart fuel .afterMember)
          else .error (.peek .keyMustBeString (octet :: rest))
  | fuel + 1, .afterMember, octets =>
      match skipSpace octets with
      | [] => .error (.peek .endInObject [])
      | octet :: rest =>
          if octet = comma then skipPart fuel .member rest
          else if octet = closeObject then .ok rest
          else .error (.peek .expectedObjectCommaOrEnd (octet :: rest))

def skipValue (octets : Octets) : Except Fault Octets :=
  skipPart (octets.length + 1) .value octets

end Beacon.Json
