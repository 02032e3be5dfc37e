import Beacon.Http.Message

/-!
# Message heads

What the heads of requests and responses have in common on a connection: blank lines before
them, the version, line ends and the block of headers. Reading gives what was read and what
follows, asks for more octets, or refuses.
-/

namespace Beacon.Http

inductive Version where
  | oneZero
  | oneOne
  deriving DecidableEq, Repr

inductive HeadFault where
  | version
  | status
  /-- A header, a line end, a method or a target's place is malformed. -/
  | header
  | target (fault : TargetError)
  | tooLarge
  | contentLength
  | transferEncoding
  deriving DecidableEq, Repr

def HeadFault.message : HeadFault → String
  | .version => "invalid HTTP version parsed"
  | .status => "invalid HTTP status-code parsed"
  | .header => "invalid HTTP header parsed"
  | .target _ => "invalid URI"
  | .tooLarge => "message head is too large"
  | .contentLength => "invalid content-length parsed"
  | .transferEncoding => "unexpected transfer-encoding parsed"

inductive Progress (α : Type) where
  /-- It is read, and this follows it. -/
  | done (value : α) (rest : Octets)
  /-- The octets end inside it. -/
  | more
  | refused (fault : HeadFault)

namespace Progress

variable {α β : Type}

def andThen (progress : Progress α) (next : α → Octets → Progress β) : Progress β :=
  match progress with
  | .done value rest => next value rest
  | .more => .more
  | .refused fault => .refused fault

@[simp] theorem done_andThen (value : α) (rest : Octets) (next : α → Octets → Progress β) :
    (Progress.done value rest).andThen next = next value rest := rfl

theorem andThen_eq_done_iff {progress : Progress α} {next : α → Octets → Progress β} {value : β}
    {rest : Octets} :
    progress.andThen next = .done value rest ↔
      ∃ first later, progress = .done first later ∧ next first later = .done value rest := by
  constructor
  · intro h
    cases progress with
    | done first later => exact ⟨first, later, rfl, h⟩
    | more | refused => cases h
  · rintro ⟨first, later, rfl, h⟩
    exact h

end Progress

/-! ## Lines -/

def carriageReturn : UInt8 := 0x0D

def lineFeed : UInt8 := 0x0A

def space : UInt8 := 0x20

/-- Reads a line end: a line feed, or a carriage return before one. -/
def readLineEnd (fault : HeadFault) : Octets → Progress Unit
  | [] => .more
  | octet :: rest =>
      if octet = lineFeed then .done () rest
      else if octet = carriageReturn then
        match rest with
        | [] => .more
        | next :: rest' => if next = lineFeed then .done () rest' else .refused fault
      else .refused fault

def skipBlankLines : Octets → Progress Unit
  | [] => .more
  | octet :: rest =>
      if octet = lineFeed then skipBlankLines rest
      else if octet = carriageReturn then
        match rest with
        | [] => .more
        | next :: rest' => if next = lineFeed then skipBlankLines rest' else .refused .header
      else .done () (octet :: rest)

/-! ## Versions -/

def versionStem : Octets := [0x48, 0x54, 0x54, 0x50, 0x2F, 0x31, 0x2E]

def Version.octets : Version → Octets
  | .oneZero => versionStem ++ [0x30]
  | .oneOne => versionStem ++ [0x31]

/-- Reads a version; what cannot become one is refused as early as it shows. -/
def readVersion (octets : Octets) : Progress Version :=
  if octets.length < 8 then if octets.isPrefixOf versionStem then .more else .refused .version
  else if octets.take 8 = Version.oneOne.octets then .done .oneOne (octets.drop 8)
  else if octets.take 8 = Version.oneZero.octets then .done .oneZero (octets.drop 8)
  else .refused .version

/-! ## Headers -/

def isValueOctet (octet : UInt8) : Bool :=
  (0x20 ≤ octet && octet ≤ 0x7E) || octet = 0x09 || 0x80 ≤ octet

def isBlankOctet (octet : UInt8) : Bool :=
  octet = space || octet = 0x09

def trimEnd (octets : Octets) : Octets :=
  (octets.reverse.dropWhile isBlankOctet).reverse

/-- Reads the value of a header after its colon, and the line end after it. -/
def readValue (octets : Octets) : Progress Octets :=
  let start := octets.dropWhile isBlankOctet
  let value := start.takeWhile isValueOctet
  (readLineEnd .header (start.drop value.length)).andThen fun _ rest => .done (trimEnd value) rest

def readHeader (octets : Octets) : Progress Header :=
  let name := octets.takeWhile isTokenOctet
  match octets.drop name.length with
  | [] => .more
  | octet :: rest =>
      if name.isEmpty ∨ octet ≠ 0x3A then .refused .header
      else
        (readValue rest).andThen fun value rest' =>
          .done ⟨asciiText (name.map Target.lower), value⟩ rest'

def maxHeaders : Nat := 100

/-- Reads header lines up to the blank line that ends them; `room` counts the headers that may
still come. One too many is refused for that only once its line has been read. -/
def readHeaders : Nat → Octets → Progress (List Header)
  | room, octets =>
      match octets with
      | [] => .more
      | octet :: _ =>
          if octet = carriageReturn ∨ octet = lineFeed then
            (readLineEnd .header octets).andThen fun _ rest => .done [] rest
          else
            match room with
            | 0 => (readHeader octets).andThen fun _ _ => .refused .tooLarge
            | room + 1 =>
                (readHeader octets).andThen fun header rest =>
                  (readHeaders room rest).andThen fun later rest' => .done (header :: later) rest'

/-! ## Writing -/

def lineEnd : Octets := [carriageReturn, lineFeed]

def Header.octets (header : Header) : Octets :=
  Utf8.octets header.name ++ [0x3A, space] ++ header.value ++ lineEnd

/-- The headers as they are written, with the blank line that ends them. -/
def headerBlock (headers : List Header) : Octets :=
  headers.flatMap Header.octets ++ lineEnd

end Beacon.Http
