import Beacon.Http.Head

/-!
# Request heads

How a request is written on a connection and read from it.
-/

namespace Beacon.Http

/-- A request with the version it was sent in. -/
structure RequestHead where
  version : Version
  request : Request
  deriving DecidableEq

namespace RequestHead

/-! ## Writing -/

/-- The octets of a request without a body, in version 1.1. -/
def write (request : Request) : Octets :=
  request.method.octets ++ [space] ++ Utf8.octets request.target.wire ++ [space] ++
    Version.oneOne.octets ++ lineEnd ++ headerBlock request.headers

/-! ## Reading -/

def isTargetOctet (octet : UInt8) : Bool :=
  0x21 ≤ octet && octet ≠ 0x7F

def readMethod (octets : Octets) : Progress Method :=
  let token := octets.takeWhile isTokenOctet
  match octets.drop token.length with
  | [] => .more
  | octet :: rest =>
      if octet = space then
        match Method.ofOctets? token with
        | some method => .done method rest
        | none => .refused .header
      else .refused .header

/-- Reads the octets of the target, which must be text, and the space after it. -/
def readTarget (octets : Octets) : Progress Octets :=
  let target := octets.takeWhile isTargetOctet
  match octets.drop target.length with
  | [] => .more
  | octet :: rest =>
      if octet = space ∧ target ≠ [] ∧ (Utf8.decode? target).isSome then .done target rest
      else .refused .header

/-- Reads a request head. The form of the target is looked at last. -/
def read (octets : Octets) : Progress RequestHead :=
  (skipBlankLines octets).andThen fun _ rest =>
    (readMethod rest).andThen fun method rest =>
      (readTarget rest).andThen fun target rest =>
        (readVersion rest).andThen fun version rest =>
          (readLineEnd .header rest).andThen fun _ rest =>
            (readHeaders maxHeaders rest).andThen fun headers rest =>
              match Target.parse target with
              | .ok parsed => .done ⟨version, ⟨method, parsed, headers⟩⟩ rest
              | .error fault => .refused (.target fault)

end RequestHead

end Beacon.Http
