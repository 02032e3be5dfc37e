import Beacon.Http.Head

/-!
# Response heads

How the head of a response is written on a connection and read from it. The reason is not kept.
-/

namespace Beacon.Http

structure ResponseHead where
  version : Version
  status : Status
  headers : List Header
  deriving DecidableEq

namespace ResponseHead

/-! ## Writing -/

def statusLine (head : ResponseHead) : Octets :=
  head.version.octets ++ [space] ++ Utf8.octets head.status.text

def write (head : ResponseHead) : Octets :=
  head.statusLine ++ lineEnd ++ headerBlock head.headers

/-! ## Reading -/

def readSpace : Octets → Progress Unit
  | [] => .more
  | octet :: rest => if octet = space then .done () rest else .refused .version

def readDigit : Octets → Progress Nat
  | [] => .more
  | octet :: rest =>
      if 0x30 ≤ octet ∧ octet ≤ 0x39 then .done (octet.toNat - 0x30) rest else .refused .status

def readCode (octets : Octets) : Progress Nat :=
  (readDigit octets).andThen fun hundreds rest =>
    (readDigit rest).andThen fun tens rest =>
      (readDigit rest).andThen fun ones rest => .done (hundreds * 100 + tens * 10 + ones) rest

def readReason : Octets → Progress Unit
  | [] => .more
  | octet :: rest =>
      if octet = space then
        readLineEnd .status (rest.dropWhile isValueOctet)
      else readLineEnd .status (octet :: rest)

def read (octets : Octets) : Progress ResponseHead :=
  (skipBlankLines octets).andThen fun _ rest =>
    (readVersion rest).andThen fun version rest =>
      (readSpace rest).andThen fun _ rest =>
        (readCode rest).andThen fun code rest =>
          (readReason rest).andThen fun _ rest =>
            (readHeaders maxHeaders rest).andThen fun headers rest =>
              match Status.ofCode? code with
              | some status => .done ⟨version, status, headers⟩ rest
              | none => .refused .status

end ResponseHead

end Beacon.Http
