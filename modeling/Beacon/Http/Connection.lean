import Beacon.Http.Framing
import Beacon.Service

/-!
# Connections to a service

What a service does with the octets of a connection: requests are answered one after another in
the order they come, each one leaves its record, and what is no request ends the connection. The
first octets of a connection are looked at before the others have come; a head that is still
incomplete then is looked at again only once a blank line has come.
-/

namespace Beacon.Http

structure Answer where
  head : ResponseHead
  body : Octets
  deriving DecidableEq

def Answer.octets (answer : Answer) : Octets :=
  answer.head.write ++ answer.body

def HeadFault.answerStatus : HeadFault → Status
  | .tooLarge => ⟨431, by omega⟩
  | .target .tooLong => ⟨414, by decide⟩
  | _ => .badRequest

/-- What an answer says about its connection. The older version closes unless told otherwise. -/
def connectionHeaders (version : Version) (keepAlive : Bool) : List Header :=
  match version, keepAlive with
  | .oneOne, false => [.ofText Header.connection "close"]
  | .oneZero, true => [.ofText Header.connection "keep-alive"]
  | _, _ => []

/-- The answer to what is no request, in the version that the connection has come to. -/
def HeadFault.answer (version : Version) (fault : HeadFault) : Answer :=
  ⟨⟨version, fault.answerStatus,
      connectionHeaders version false ++ [.ofText Header.contentLength "0"]⟩, []⟩

def Answer.ofResponse (version : Version) (keepAlive : Bool) (response : Response) : Answer :=
  ⟨⟨version, response.status, response.headers ++ connectionHeaders version keepAlive⟩,
    response.body⟩

/-- What a connection has come to: the answers sent and the records left, in order. -/
structure Traffic where
  answers : List Answer
  records : List Record

def Traffic.octets (traffic : Traffic) : Octets :=
  traffic.answers.flatMap Answer.octets

/-- What follows the body of an answered request, if the connection can go on there: the body
is passed over when it is all there, and when it is chunked only if it has one chunk at most. -/
def afterBody (framing : Framing) (octets : Octets) : Option Octets :=
  match framing with
  | .chunked =>
      ((Chunks.read octets).filter fun chunks => chunks.count ≤ 1).map Chunks.rest
  | _ => (framing.readBody octets).map Prod.snd

/-! ## Looking at heads -/

/-- The number of octets that are looked at first. They tell the protocols apart. -/
def firstLook : Nat := 24

/-- The octets with which a newer protocol begins, which is not spoken here. -/
def otherProtocol : Octets :=
  [0x50, 0x52, 0x49, 0x20, 0x2A, 0x20, 0x48, 0x54, 0x54, 0x50, 0x2F, 0x32, 0x2E, 0x30, 0x0D, 0x0A,
    0x0D, 0x0A, 0x53, 0x4D, 0x0D, 0x0A, 0x0D, 0x0A]

/-- Whether octets are of the newer protocol; line ends before it do not count. -/
def isOtherProtocol (octets : Octets) : Bool :=
  otherProtocol.isPrefixOf
    (octets.dropWhile fun octet => octet = carriageReturn || octet = lineFeed)

/-- Whether a blank line is seen anywhere: two line ends that are written alike. -/
def holdsBlankLine : Octets → Bool
  | [] => false
  | octet :: rest =>
      (octet = carriageReturn && [lineFeed, carriageReturn, lineFeed].isPrefixOf rest) ||
        (octet = lineFeed && rest.head? = some lineFeed) || holdsBlankLine rest

/-- The most octets of a head that are kept until it is complete. -/
def maxHeadLength : Nat := 8192 + 4096 * 100

def RequestHead.incomplete (octets : Octets) : Progress RequestHead :=
  if maxHeadLength ≤ octets.length then .refused .tooLarge else .more

/-- Reads a head that must be complete in the octets that are kept. -/
def RequestHead.readBounded (octets : Octets) : Progress RequestHead :=
  match RequestHead.read (octets.take maxHeadLength) with
  | .more => RequestHead.incomplete octets
  | _ => RequestHead.read octets

/-- Reads a head of whose octets the first `seen` are looked at before the others come. A blank line
may begin in them, but has then not been seen to its end. -/
def RequestHead.readAfter (seen : Nat) (octets : Octets) : Progress RequestHead :=
  match RequestHead.read (octets.take seen) with
  | .more =>
      if seen = 0 ∨ octets.length ≤ seen ∨ holdsBlankLine (octets.drop (seen - 3)) then
        RequestHead.readBounded octets
      else RequestHead.incomplete octets
  | _ => RequestHead.readBounded octets

/-! ## Serving -/

/-- The answers to what is no request, in the version that the connection has come to. The newer
protocol gets none. -/
def refuse (version : Version) (fault : HeadFault) (octets : Octets) : Traffic :=
  if isOtherProtocol octets then ⟨[], []⟩ else ⟨[fault.answer version], []⟩

/-- Serves the octets of a connection that has come to a version; the first `seen` of them are
looked at before the others come. Every request takes at least one octet, so their number bounds
that of the requests. -/
def serveOctets (service : Service) (version : Version) (seen : Nat) : Nat → Octets → Traffic
  | 0, _ => ⟨[], []⟩
  | fuel + 1, octets =>
      match RequestHead.readAfter seen octets with
      | .more => ⟨[], []⟩
      | .refused fault => refuse version fault octets
      | .done head rest =>
          match Framing.ofRequest head with
          | .error fault => ⟨[fault.answer version], []⟩
          | .ok framing =>
              let (response, record) := service.handle head.request
              let answer := Answer.ofResponse head.version head.keepsOpen response
              match head.keepsOpen, afterBody framing rest with
              | true, some later =>
                  let passed := octets.length - later.length
                  let traffic := serveOctets service head.version (seen - passed) fuel later
                  ⟨answer :: traffic.answers, record :: traffic.records⟩
              | _, _ => ⟨[answer], [record]⟩

def serveConnection (service : Service) (octets : Octets) : Traffic :=
  serveOctets service .oneOne firstLook (octets.length + 1) octets

end Beacon.Http
