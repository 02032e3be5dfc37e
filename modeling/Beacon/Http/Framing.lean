import Beacon.Http.RequestHead
import Beacon.Http.ResponseHead

/-!
# Framing of bodies

Where the body of a message ends: after a stated number of octets, with the last of its chunks,
or with the connection.
-/

namespace Beacon.Http

inductive Framing where
  | sized (length : Nat)
  | chunked
  | untilClose
  deriving DecidableEq, Repr

def maxBodyLength : Nat := Nat.pow 2 64 - 3

/-! ## Header values -/

def allValues (name : String) (headers : List Header) : List Octets :=
  (headers.filter fun header => header.name == name).map (·.value)

def splitList (octets : Octets) : List Octets :=
  octets.splitOn 0x2C

def trimPart (octets : Octets) : Octets :=
  trimEnd (octets.dropWhile isBlankOctet)

def sameWord (word octets : Octets) : Bool :=
  octets.map Target.lower == word

def chunkedWord : Octets := [0x63, 0x68, 0x75, 0x6E, 0x6B, 0x65, 0x64]

def closeWord : Octets := [0x63, 0x6C, 0x6F, 0x73, 0x65]

def keepAliveWord : Octets := [0x6B, 0x65, 0x65, 0x70, 0x2D, 0x61, 0x6C, 0x69, 0x76, 0x65]

def endsInChunked (value : Octets) : Bool :=
  value.all Header.isPlainOctet &&
    match (splitList value).getLast? with
    | some part => sameWord chunkedWord (trimPart part)
    | none => false

/-- The number that octets spell, if they are digits and it has at most 64 bits. -/
def lengthValue? (octets : Octets) : Option Nat :=
  if !octets.isEmpty && octets.all fun octet => 0x30 ≤ octet && octet ≤ 0x39 then
    let n := octets.foldl (fun total octet => total * 10 + (octet.toNat - 0x30)) 0
    if n < Nat.pow 2 64 then some n else none
  else none

def agreedLength? : List (Option Nat) → Option Nat
  | [] => none
  | first :: rest => if rest.all (· == first) then first else none

/-! ## Responses -/

/-- The octets of the methods whose responses are framed in a way of their own. -/
def framingOfHeaders (head : ResponseHead) : Except HeadFault Framing :=
  let codings := allValues Header.transferEncoding head.headers
  let lengths := allValues Header.contentLength head.headers
  match codings.getLast? with
  | some coding =>
      if head.version = .oneZero then .error .transferEncoding
      else if endsInChunked coding then .ok .chunked
      else .ok .untilClose
  | none =>
      if lengths.isEmpty then .ok .untilClose
      else
        let parts := lengths.flatMap fun value =>
          if value.all Header.isPlainOctet then
            (splitList value).map fun part => lengthValue? (trimPart part)
          else [none]
        match agreedLength? parts with
        | some n => if n ≤ maxBodyLength then .ok (.sized n) else .error .tooLarge
        | none => .error .contentLength

/-- The framing of a response to a method; none for a response that another one follows. -/
def Framing.ofResponse (method : Method) (head : ResponseHead) :
    Except HeadFault (Option Framing) :=
  let code := head.status.code
  if code = 101 ∨ code = 204 ∨ code = 304 then .ok (some (.sized 0))
  else if code < 200 then .ok none
  else if method = .head ∨ (method = .connect ∧ code < 300) then .ok (some (.sized 0))
  else (framingOfHeaders head).map some

/-! ## Requests -/

/-- What the headers of a request say about its body. -/
structure RequestFraming where
  chunkedLast : Option Bool
  length : Option Nat
  deriving DecidableEq, Repr

def holdsWord (word value : Octets) : Bool :=
  value.all Header.isPlainOctet && (splitList value).any fun part => sameWord word (trimPart part)

/-- Takes one header of a request into account. A length counts for nothing after a coding. -/
def RequestFraming.next (version : Version) (framing : RequestFraming) (header : Header) :
    Except HeadFault RequestFraming :=
  if header.name = Header.transferEncoding then
    if version = .oneZero then .error .transferEncoding
    else .ok { framing with chunkedLast := some (endsInChunked header.value) }
  else if header.name = Header.contentLength then
    if framing.chunkedLast.isSome then .ok framing
    else
      match lengthValue? header.value, framing.length with
      | none, _ => .error .contentLength
      | some n, some stated => if n = stated then .ok framing else .error .contentLength
      | some n, none =>
          if n ≤ maxBodyLength then .ok { framing with length := some n } else .error .tooLarge
  else .ok framing

def Framing.ofRequest (head : RequestHead) : Except HeadFault Framing := do
  let framing ← head.request.headers.foldlM (RequestFraming.next head.version) ⟨none, none⟩
  match framing.chunkedLast with
  | some true => return .chunked
  | some false => .error .transferEncoding
  | none => return .sized (framing.length.getD 0)

/-- Whether any value of the connection header holds a word. -/
def asksConnection (word : Octets) (headers : List Header) : Bool :=
  (allValues Header.connection headers).any (holdsWord word)

/-- Whether a request states its length as well as a coding, so that others may see its end
elsewhere. -/
def statesTwoLengths (headers : List Header) : Bool :=
  !(allValues Header.transferEncoding headers).isEmpty &&
    !(allValues Header.contentLength headers).isEmpty

/-- Whether the connection of a request stays open. The newer version keeps it open of itself, the
older one when it is asked to; a request to close it goes before any other. -/
def RequestHead.keepsOpen (head : RequestHead) : Bool :=
  let headers := head.request.headers
  (head.version = .oneOne || asksConnection keepAliveWord headers) &&
    !asksConnection closeWord headers && !statesTwoLengths headers

/-! ## Chunks -/

/-- Where the reading of chunks stands. -/
inductive ChunkState where
  /-- Before the size of a chunk. -/
  | start
  | size (n : Nat)
  | afterSize (n : Nat)
  | extension (n : Nat)
  | sizeEnd (n : Nat)
  /-- Inside a chunk that still has this many octets. -/
  | body (n : Nat)
  | bodyEnd
  | bodyLineFeed
  /-- At the start of a line after the last chunk. -/
  | trailerStart
  | trailer
  | trailerLineFeed
  | lastLineFeed
  /-- After the whole body. -/
  | finished
  deriving DecidableEq, Repr

def chunkDigit? (octet : UInt8) : Option Nat :=
  if 0x30 ≤ octet ∧ octet ≤ 0x39 then some (octet.toNat - 0x30)
  else if 0x41 ≤ octet ∧ octet ≤ 0x46 then some (octet.toNat - 0x41 + 10)
  else if 0x61 ≤ octet ∧ octet ≤ 0x66 then some (octet.toNat - 0x61 + 10)
  else none

def ChunkState.leaveSize (n : Nat) (octet : UInt8) : Option ChunkState :=
  if octet = 0x09 ∨ octet = space then some (.afterSize n)
  else if octet = 0x3B then some (.extension n)
  else if octet = carriageReturn then some (.sizeEnd n)
  else none

def ChunkState.next (octet : UInt8) : ChunkState → Option ChunkState
  | .start => (chunkDigit? octet).map .size
  | .size n =>
      match chunkDigit? octet with
      | some digit => if n * 16 + digit < Nat.pow 2 64 then some (.size (n * 16 + digit)) else none
      | none => leaveSize n octet
  | .afterSize n => leaveSize n octet
  | .extension n =>
      if octet = carriageReturn then some (.sizeEnd n)
      else if octet = lineFeed then none
      else some (.extension n)
  | .sizeEnd n =>
      if octet = lineFeed then if n = 0 then some .trailerStart else some (.body n) else none
  | .body n => if n ≤ 1 then some .bodyEnd else some (.body (n - 1))
  | .bodyEnd => if octet = carriageReturn then some .bodyLineFeed else none
  | .bodyLineFeed => if octet = lineFeed then some .start else none
  | .trailerStart => if octet = carriageReturn then some .lastLineFeed else some .trailer
  | .trailer => if octet = carriageReturn then some .trailerLineFeed else some .trailer
  | .trailerLineFeed => if octet = lineFeed then some .trailerStart else none
  | .lastLineFeed => if octet = lineFeed then some .finished else none
  | .finished => none

/-- A chunked body taken apart: the number of its chunks, their content, the number of octets of
its extensions, its trailer lines, and what follows it. -/
structure Chunks where
  count : Nat
  content : Octets
  extensions : Nat
  trailer : Octets
  rest : Octets

/-- What an octet that is read in a state adds to what the octets after it give. -/
def Chunks.add (state : ChunkState) (octet : UInt8) (chunks : Chunks) : Chunks :=
  match state with
  | .sizeEnd n => if n = 0 then chunks else { chunks with count := chunks.count + 1 }
  | .body _ => { chunks with content := octet :: chunks.content }
  | .extension _ =>
      if octet = carriageReturn then chunks
      else { chunks with extensions := chunks.extensions + 1 }
  | .trailerStart | .trailer | .trailerLineFeed | .lastLineFeed =>
      { chunks with trailer := octet :: chunks.trailer }
  | _ => chunks

/-- Reads a chunked body from a state on; none if it is malformed or cut off. -/
def readChunks : ChunkState → Octets → Option Chunks
  | .finished, octets => some ⟨0, [], 0, [], octets⟩
  | _, [] => none
  | state, octet :: rest =>
      match state.next octet with
      | none => none
      | some after => (readChunks after rest).map (Chunks.add state octet)

namespace Chunks

/-- The number of octets that the extensions of all chunks, or the trailer lines, must stay
below. -/
def sideLimit : Nat := 16384

/-- The number of trailer lines; the blank line after them is none. -/
def trailerLines (chunks : Chunks) : Nat :=
  chunks.trailer.count carriageReturn - 1

/-- Whether the lines after the last chunk are headers, one on each line, and neither they nor the
extensions are too many. -/
def valid (chunks : Chunks) : Bool :=
  chunks.extensions < sideLimit && chunks.trailer.length < sideLimit &&
    chunks.trailerLines < maxHeaders &&
    match readHeaders chunks.trailerLines chunks.trailer with
    | .done _ _ => true
    | _ => false

/-- Reads a whole chunked body; none if it is malformed or cut off. -/
def read (octets : Octets) : Option Chunks :=
  (readChunks .start octets).filter valid

end Chunks

/-- Reads a body to its end; none if it is malformed or the octets end too early. -/
def Framing.readBody (framing : Framing) (octets : Octets) : Option (Octets × Octets) :=
  match framing with
  | .untilClose => some (octets, [])
  | .sized n => if n ≤ octets.length then some (octets.take n, octets.drop n) else none
  | .chunked => (Chunks.read octets).map fun chunks => (chunks.content, chunks.rest)

end Beacon.Http
