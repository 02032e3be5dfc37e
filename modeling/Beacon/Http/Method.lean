import Beacon.Text.Utf8

/-!
# Request methods

A method is any non-empty token, and methods are told apart by case.
-/

namespace Beacon.Http

/-- The octets of tokens: digits, letters and the marks that separate nothing. -/
def isTokenOctet (octet : UInt8) : Bool :=
  (0x30 ≤ octet && octet ≤ 0x39) || (0x41 ≤ octet && octet ≤ 0x5A) ||
    (0x61 ≤ octet && octet ≤ 0x7A) ||
    [0x21, 0x23, 0x24, 0x25, 0x26, 0x27, 0x2A, 0x2B, 0x2D, 0x2E, 0x5E, 0x5F, 0x60, 0x7C,
      0x7E].contains octet

def isToken (octets : Octets) : Bool :=
  !octets.isEmpty && octets.all isTokenOctet

def asciiText (octets : Octets) : String :=
  String.ofList (octets.map fun octet => Char.ofNat octet.toNat)

structure Method where
  octets : Octets
  token : isToken octets = true
  deriving DecidableEq

namespace Method

def ofOctets? (octets : Octets) : Option Method :=
  if h : isToken octets = true then some ⟨octets, h⟩ else none

def ofName? (name : String) : Option Method :=
  ofOctets? (Utf8.octets name)

def name (method : Method) : String :=
  asciiText method.octets

def get : Method := ⟨[0x47, 0x45, 0x54], by decide⟩

def head : Method := ⟨[0x48, 0x45, 0x41, 0x44], by decide⟩

def connect : Method := ⟨[0x43, 0x4F, 0x4E, 0x4E, 0x45, 0x43, 0x54], by decide⟩

end Method

end Beacon.Http
