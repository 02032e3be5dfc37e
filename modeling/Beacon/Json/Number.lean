import Beacon.Json.Fault
import Beacon.Json.Shortest

/-!
# Numbers in JSON text

Reading a number gives its value: an integer of the machine's range, or a double. Digits beyond
64 bits only move the decimal point. Skipping a number checks its grammar alone.
-/

namespace Beacon.Json

def digit? (octet : UInt8) : Option Nat :=
  if 0x30 ≤ octet ∧ octet ≤ 0x39 then some (octet.toNat - 0x30) else none

def isDigit (octet : UInt8) : Bool :=
  (digit? octet).isSome

def spanDigits (octets : Octets) : List Nat × Octets :=
  ((octets.takeWhile isDigit).filterMap digit?, octets.dropWhile isDigit)

def minusSign : UInt8 := 0x2D

def point : UInt8 := 0x2E

def isExponentMark (octet : UInt8) : Bool :=
  octet = 0x65 || octet = 0x45

/-! ## Values -/

/-- Appends digits to a significand while it stays below 64 bits; the count is of those left. -/
def appendDigits : Nat → List Nat → Nat × Nat
  | significand, [] => (significand, 0)
  | significand, digit :: rest =>
      if significand * 10 + digit < Nat.pow 2 64 then appendDigits (significand * 10 + digit) rest
      else (significand, rest.length + 1)

def powerOfTen (n : Nat) : Float :=
  Float.ofScientific 1 false n

/-- The double `value * 10 ^ exponent`, rounded once for each factor; none when it is too large. -/
def scaled (value : Float) (exponent : Int) : Option Float :=
  if exponent.natAbs ≤ 308 then
    if 0 ≤ exponent then
      let product := value * powerOfTen exponent.toNat
      if product.isInf then none else some product
    else some (value / powerOfTen exponent.natAbs)
  else if value == 0.0 then some value
  else if 0 ≤ exponent then none
  else scaled (value / powerOfTen 308) (exponent + 308)
termination_by (-exponent).toNat
decreasing_by omega

/-- The double of a significand and a decimal exponent, with what follows the number. -/
def floatReading (positive : Bool) (significand : Nat) (exponent : Int) (rest : Octets) :
    Reading Unexpected :=
  match scaled (UInt64.ofNat significand).toFloat exponent with
  | some magnitude => .ok (.float (floatText (if positive then magnitude else -magnitude)), rest)
  | none => .error ⟨.numberOutOfRange, rest⟩

/-- Reads on in the digits of an exponent. There is no value once it passes 31 bits; the octets
then follow the digit at which it does. -/
def exponentFrom (exponent : Nat) : Octets → Option Nat × Octets
  | [] => (some exponent, [])
  | octet :: rest =>
      match digit? octet with
      | some digit =>
          if exponent * 10 + digit ≤ 2147483647 then exponentFrom (exponent * 10 + digit) rest
          else (none, rest)
      | none => (some exponent, octet :: rest)

def readExponent (positive : Bool) (significand : Nat) (start : Int) (octets : Octets) :
    Reading Unexpected :=
  let (raises, octets) :=
    match octets with
    | 0x2B :: rest => (true, rest)
    | 0x2D :: rest => (false, rest)
    | _ => (true, octets)
  match octets with
  | [] => .error ⟨.endInValue, []⟩
  | octet :: rest =>
      match digit? octet with
      | none => .error ⟨.invalidNumber, rest⟩
      | some digit =>
          match exponentFrom digit rest with
          | (some exponent, final) =>
              floatReading positive significand
                (if raises then start + exponent else start - exponent) final
          | (none, later) =>
              if significand ≠ 0 ∧ raises then .error ⟨.numberOutOfRange, later⟩
              else floatReading positive 0 0 (later.dropWhile isDigit)

def readFraction (positive : Bool) (significand : Nat) (start : Int) (octets : Octets) :
    Reading Unexpected :=
  match spanDigits octets with
  | ([], []) => .error ⟨.endInValue, []⟩
  | ([], octet :: rest) => .error (.peek .invalidNumber (octet :: rest))
  | (digits, rest) =>
      let (significand, left) := appendDigits significand digits
      let exponent := start - (digits.length - left : Nat)
      match rest with
      | octet :: rest' =>
          if isExponentMark octet then readExponent positive significand exponent rest'
          else floatReading positive significand exponent rest
      | [] => floatReading positive significand exponent rest

/-- The value of an integer that fits the machine's range; a float where it does not. -/
def integerReading (positive : Bool) (significand : Nat) (rest : Octets) : Reading Unexpected :=
  if positive then .ok (.integer significand, rest)
  else if 0 < significand ∧ significand ≤ Nat.pow 2 63 then .ok (.integer (-significand), rest)
  else floatReading false significand 0 rest

def readUnsigned (positive : Bool) (octets : Octets) : Reading Unexpected :=
  match octets with
  | [] => .error ⟨.endInValue, []⟩
  | first :: tail =>
      match digit? first with
      | none => .error ⟨.invalidNumber, tail⟩
      | some lead =>
          let (digits, rest) := spanDigits tail
          if lead = 0 ∧ digits ≠ [] then .error (.peek .invalidNumber tail)
          else
            let (significand, left) := appendDigits lead digits
            match rest with
            | [] =>
                if left = 0 then integerReading positive significand rest
                else floatReading positive significand left rest
            | octet :: rest' =>
                if octet = point then readFraction positive significand left rest'
                else if isExponentMark octet then readExponent positive significand left rest'
                else if left = 0 then integerReading positive significand rest
                else floatReading positive significand left rest

def readNumber : Octets → Reading Unexpected
  | octet :: rest =>
      if octet = minusSign then readUnsigned false rest else readUnsigned true (octet :: rest)
  | [] => .error ⟨.endInValue, []⟩

/-! ## Grammar alone -/

def skipExponent (octets : Octets) : Except Fault Octets :=
  let octets :=
    match octets with
    | 0x2B :: rest => rest
    | 0x2D :: rest => rest
    | _ => octets
  match octets with
  | octet :: rest =>
      if isDigit octet then .ok (rest.dropWhile isDigit) else .error ⟨.invalidNumber, rest⟩
  | [] => .error ⟨.invalidNumber, []⟩

def skipFraction (octets : Octets) : Except Fault Octets :=
  if octets.takeWhile isDigit = [] then .error (.peek .invalidNumber octets)
  else
    match octets.dropWhile isDigit with
    | octet :: rest => if isExponentMark octet then skipExponent rest else .ok (octet :: rest)
    | [] => .ok []

def skipUnsigned : Octets → Except Fault Octets
  | [] => .error ⟨.invalidNumber, []⟩
  | first :: tail =>
      if !isDigit first then .error ⟨.invalidNumber, tail⟩
      else if first = 0x30 ∧ tail.takeWhile isDigit ≠ [] then .error (.peek .invalidNumber tail)
      else
        match tail.dropWhile isDigit with
        | octet :: rest =>
            if octet = point then skipFraction rest
            else if isExponentMark octet then skipExponent rest
            else .ok (octet :: rest)
        | [] => .ok []

def skipNumber : Octets → Except Fault Octets
  | octet :: rest => if octet = minusSign then skipUnsigned rest else skipUnsigned (octet :: rest)
  | [] => .error ⟨.invalidNumber, []⟩

end Beacon.Json
