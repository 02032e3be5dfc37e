import Beacon.Http.Status
import Beacon.Http.Target

/-!
# Requests and responses

The messages of the protocol, apart from how they are written on a connection.
-/

namespace Beacon.Http

/-! ## Headers -/

/-- A header of a message. Names are compared in lower case, and are kept so. -/
structure Header where
  name : String
  value : Octets
  deriving DecidableEq, Repr

namespace Header

def ofText (name value : String) : Header :=
  ⟨name, Utf8.octets value⟩

def contentLength : String := "content-length"

def contentType : String := "content-type"

def transferEncoding : String := "transfer-encoding"

def connection : String := "connection"

def allow : String := "allow"

/-- The octets that a value written as text may have: visible ASCII, the space and the tab. -/
def isPlainOctet (octet : UInt8) : Bool :=
  (0x20 ≤ octet && octet ≤ 0x7E) || octet = 0x09

def line (header : Header) : String :=
  header.name ++ ": " ++ Utf8.display header.value

end Header

def firstValue? (name : String) (headers : List Header) : Option Octets :=
  (headers.find? fun header => header.name == name).map (·.value)

@[simp] theorem firstValue?_nil (name : String) : firstValue? name [] = none := rfl

theorem firstValue?_cons (name : String) (header : Header) (headers : List Header) :
    firstValue? name (header :: headers) =
      if header.name = name then some header.value else firstValue? name headers := by
  rw [firstValue?, List.find?_cons]
  by_cases hname : header.name = name
  · rw [if_pos hname, beq_iff_eq.mpr hname]
    rfl
  · rw [if_neg hname, beq_eq_false_iff_ne.mpr hname]
    rfl

theorem firstValue?_ofText_cons (name text : String) (headers : List Header) :
    firstValue? name (.ofText name text :: headers) = some (Utf8.octets text) := by
  rw [firstValue?_cons, Header.ofText, if_pos rfl]

theorem firstValue?_ofText_cons_of_ne {name other : String} (h : other ≠ name) (text : String)
    (headers : List Header) :
    firstValue? name (.ofText other text :: headers) = firstValue? name headers := by
  rw [firstValue?_cons, Header.ofText, if_neg h]

/-! ## Requests -/

structure Request where
  method : Method
  target : Target
  headers : List Header
  deriving DecidableEq

inductive RequestError where
  | method
  | target (fault : TargetError)
  | headerName
  | headerValue
  deriving DecidableEq, Repr

def RequestError.message : RequestError → String
  | .method => "invalid HTTP method"
  | .target fault => fault.message
  | .headerName => "invalid HTTP header name"
  | .headerValue => "failed to parse header value"

def Header.build (name value : String) : Except RequestError Header :=
  let octets := Utf8.octets name
  if !isToken octets then .error .headerName
  else if !(Utf8.octets value).all isPlainOctet then .error .headerValue
  else .ok ⟨asciiText (octets.map Target.lower), Utf8.octets value⟩

namespace Request

/-- Builds a request from texts; the method is looked at first, then the target. -/
def build (method target : String) (headers : List (String × String))
    (grammar : Target.Grammar := .strict) : Except RequestError Request :=
  match Method.ofName? method with
  | none => .error .method
  | some token =>
      match Target.parse (Utf8.octets target) grammar with
      | .error fault => .error (.target fault)
      | .ok parsed =>
          (headers.mapM fun (name, value) => Header.build name value).map fun built =>
            ⟨token, parsed, built⟩

end Request

/-! ## Responses -/

structure Response where
  status : Status
  headers : List Header
  body : Octets
  deriving DecidableEq

end Beacon.Http
