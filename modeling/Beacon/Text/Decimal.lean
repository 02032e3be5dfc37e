/-!
# Decimal numerals

Writing natural numbers in decimal and reading digit strings of any length back to their value, as
natural numbers or as words of sixteen bits.
-/

namespace Beacon.Decimal

def isDigit (c : Char) : Bool :=
  '0' ≤ c && c ≤ '9'

def digitValue (c : Char) : Nat :=
  c.toNat - 48

/-- The value of a digit string, most significant digit first. -/
def value (digits : List Char) : Nat :=
  digits.foldl (fun total c => total * 10 + digitValue c) 0

def value? (text : List Char) : Option Nat :=
  if text ≠ [] ∧ text.all isDigit then some (value text) else none

/-- A numeral without the plus sign at its front, if there is one. -/
def unsigned : List Char → List Char
  | '+' :: rest => rest
  | text => text

/-- The product of two words of sixteen bits, unless it outgrows them. -/
def product? (a b : UInt16) : Option UInt16 :=
  if a.toNat * b.toNat < UInt16.size then some (a * b) else none

/-- The sum of two words of sixteen bits, unless it outgrows them. -/
def sum? (a b : UInt16) : Option UInt16 :=
  if a.toNat + b.toNat < UInt16.size then some (a + b) else none

/-- A word with one more digit at its end, unless it is no digit or outgrows the word. -/
def appendDigit? (total : UInt16) (c : Char) : Option UInt16 :=
  if isDigit c then
    (product? total 10).bind fun shifted => sum? shifted (UInt16.ofNat (digitValue c))
  else none

/-- The word of sixteen bits that a text of one or more digits spells, read digit by digit. -/
def word? (text : List Char) : Option UInt16 :=
  if text = [] then none else text.foldlM appendDigit? 0

def digits (n : Nat) : List Char :=
  Nat.toDigits 10 n

def numeral (n : Nat) : String :=
  String.ofList (digits n)

/-- The digits of a number, padded on the left with zeros to a width. -/
def padded (width n : Nat) : List Char :=
  let shown := digits n
  List.replicate (width - shown.length) '0' ++ shown

end Beacon.Decimal
