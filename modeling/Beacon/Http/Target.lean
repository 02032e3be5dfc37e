import Beacon.Http.Method

/-!
# Request targets

What a request asks for: a path with an optional query (origin form), the same behind a scheme
and an authority (absolute form), an authority alone, or an asterisk. A fragment is dropped
before anything else sees the target. `Target.parse` reads a target from octets, `Target.wire`
writes it into a request line.
-/

namespace Beacon.Http

inductive Target where
  | asterisk
  /-- A path that starts with a slash, and a query. -/
  | origin (path : String) (query : Option String)
  /-- An authority alone. -/
  | authority (host : String)
  /-- A scheme, an authority, a path that may be empty, and a query. -/
  | absolute (scheme host path : String) (query : Option String)
  deriving DecidableEq, Repr

namespace Target

/-! ## Parts -/

/-- The path by which a target is routed: an absolute target without a path has the root. -/
def path : Target → String
  | .asterisk => "*"
  | .origin path _ => path
  | .authority _ => ""
  | .absolute _ _ path _ => if path = "" then "/" else path

def query : Target → Option String
  | .origin _ query => query
  | .absolute _ _ _ query => query
  | _ => none

def withQuery (path : String) : Option String → String
  | some query => path ++ "?" ++ query
  | none => path

/-- The path and query as they were received, under which a request is recorded. An absolute
target that has neither stands for the root; an authority has no path. -/
def recorded : Target → String
  | .asterisk => "*"
  | .origin path query => withQuery path query
  | .authority _ => ""
  | .absolute _ _ path query =>
      let text := withQuery path query
      if text = "" then "/" else text

def wire : Target → String
  | .asterisk => "*"
  | .origin path query => withQuery path query
  | .authority host => host
  | .absolute scheme host path query =>
      scheme ++ "://" ++ host ++ withQuery (if path = "" then "/" else path) query

end Target

/-! ## Faults -/

inductive TargetError where
  | empty
  | tooLong
  | schemeTooLong
  | badCharacter
  | badAuthority
  | badFormat
  deriving DecidableEq, Repr

def TargetError.message : TargetError → String
  | .empty => "empty string"
  | .tooLong => "uri too long"
  | .schemeTooLong => "scheme too long"
  | .badCharacter => "invalid uri character"
  | .badAuthority => "invalid authority"
  | .badFormat => "invalid format"

namespace Target

/-! ## Octets -/

def maxLength : Nat := 65534

def maxSchemeLength : Nat := 64

def slash : UInt8 := 0x2F

def questionMark : UInt8 := 0x3F

def numberSign : UInt8 := 0x23

def delete : UInt8 := 0x7F

/-- The grammars of paths and queries. Releases of the library that reads targets differ in one
octet, the delete character: the earlier ones admit it in a path and in a query, the later ones
refuse it, and the program is built with a later one. -/
inductive Grammar where
  | strict
  | lenient
  deriving DecidableEq, Repr

/-- Whether an octet is the delete character, and admitted. -/
def Grammar.admitsDelete : Grammar → UInt8 → Bool
  | .strict, _ => false
  | .lenient, octet => octet = delete

def isPathOctet (grammar : Grammar) (octet : UInt8) : Bool :=
  octet = 0x21 || octet = 0x22 || (0x24 ≤ octet && octet ≤ 0x3B) || octet = 0x3D ||
    (0x40 ≤ octet && octet ≤ 0x5F) || (0x61 ≤ octet && octet ≤ 0x7E) || 0x80 ≤ octet ||
      grammar.admitsDelete octet

def isQueryOctet (grammar : Grammar) (octet : UInt8) : Bool :=
  octet = 0x21 || (0x24 ≤ octet && octet ≤ 0x3B) || octet = 0x3D ||
    (0x3F ≤ octet && octet ≤ 0x7E) || 0x80 ≤ octet || grammar.admitsDelete octet

def isSchemeOctet (octet : UInt8) : Bool :=
  (0x30 ≤ octet && octet ≤ 0x39) || (0x41 ≤ octet && octet ≤ 0x5A) ||
    (0x61 ≤ octet && octet ≤ 0x7A) || [0x2B, 0x2D, 0x2E, 0x7E].contains octet

/-- The octets that may stand in an authority without further conditions. -/
def isAuthorityOctet (octet : UInt8) : Bool :=
  (0x30 ≤ octet && octet ≤ 0x39) || (0x41 ≤ octet && octet ≤ 0x5A) ||
    (0x61 ≤ octet && octet ≤ 0x7A) ||
    [0x21, 0x24, 0x26, 0x27, 0x28, 0x29, 0x2A, 0x2B, 0x2C, 0x2D, 0x2E, 0x3B, 0x3D, 0x5F,
      0x7E].contains octet

def endsAuthority (octet : UInt8) : Bool :=
  octet = slash || octet = questionMark || octet = numberSign

/-! ## Path and query -/

def readText (allowed : UInt8 → Bool) (octets : Octets) : Except TargetError String :=
  if octets.all allowed then
    match Utf8.decode? octets with
    | some text => .ok (String.ofList text)
    | none => .error .badCharacter
  else .error .badCharacter

def beforeFragment (octets : Octets) : Octets :=
  octets.takeWhile (· ≠ numberSign)

def readPathAndQuery (grammar : Grammar) (octets : Octets) :
    Except TargetError (String × Option String) :=
  let shown := beforeFragment octets
  match readText (isPathOctet grammar) (shown.takeWhile (· ≠ questionMark)) with
  | .error fault => .error fault
  | .ok path =>
      match shown.dropWhile (· ≠ questionMark) with
      | [] => .ok (path, none)
      | _ :: query => (readText (isQueryOctet grammar) query).map fun text => (path, some text)

/-! ## Authority -/

/-- What is known of an authority while it is read: the colons and the percent sign since the
user information or a bracketed address, the brackets seen, and whether an at sign came last. -/
structure AuthorityScan where
  colons : Nat
  percent : Bool
  opened : Bool
  closed : Bool
  endsAt : Bool

def AuthorityScan.start : AuthorityScan :=
  ⟨0, false, false, false, false⟩

def AuthorityScan.next (scan : AuthorityScan) (octet : UInt8) :
    Except TargetError AuthorityScan :=
  if octet = 0x3A then
    if 8 ≤ scan.colons then .error .badAuthority
    else .ok { scan with colons := scan.colons + 1, endsAt := false }
  else if octet = 0x5B then
    if scan.percent || scan.opened then .error .badAuthority
    else .ok { scan with opened := true, endsAt := false }
  else if octet = 0x5D then
    if !scan.opened || scan.closed then .error .badAuthority
    else .ok { scan with closed := true, colons := 0, percent := false, endsAt := false }
  else if octet = 0x40 then .ok { scan with colons := 0, percent := false, endsAt := true }
  else if octet = 0x25 then .ok { scan with percent := true, endsAt := false }
  else if isAuthorityOctet octet then .ok { scan with endsAt := false }
  else .error .badCharacter

/-- Whether an authority may end: brackets come in a pair, at most one colon stands before a
port, a host follows the user information, and percent signs stand in that information only. -/
def AuthorityScan.complete (scan : AuthorityScan) : Bool :=
  scan.opened == scan.closed && scan.colons ≤ 1 && !scan.endsAt && !scan.percent

def checkAuthority (octets : Octets) : Except TargetError Unit :=
  match octets.foldlM AuthorityScan.next .start with
  | .error fault => .error fault
  | .ok scan => if scan.complete then .ok () else .error .badAuthority

def readAuthority (octets : Octets) : Except TargetError (Octets × Octets) :=
  if octets.isEmpty then .error .empty
  else
    let host := octets.takeWhile fun octet => !endsAuthority octet
    match checkAuthority host with
    | .error fault => .error fault
    | .ok () => .ok (host, octets.dropWhile fun octet => !endsAuthority octet)

/-! ## Scheme -/

def schemeMark : Octets := [0x3A, 0x2F, 0x2F]

def httpScheme : Octets := [0x68, 0x74, 0x74, 0x70]

def httpsScheme : Octets := [0x68, 0x74, 0x74, 0x70, 0x73]

def lower (octet : UInt8) : UInt8 :=
  if 0x41 ≤ octet ∧ octet ≤ 0x5A then octet + 0x20 else octet

/-- Whether octets start with a scheme and its mark, letters of either case being equal. -/
def startsWithScheme (scheme octets : Octets) : Bool :=
  (octets.take (scheme.length + 3)).map lower == scheme ++ schemeMark

/-- Splits a scheme and its mark off the front, if there is one. The two usual schemes are read
in any case and kept in lower case. -/
def readScheme (octets : Octets) : Except TargetError (Option Octets × Octets) :=
  if startsWithScheme httpScheme octets then .ok (some httpScheme, octets.drop 7)
  else if startsWithScheme httpsScheme octets then .ok (some httpsScheme, octets.drop 8)
  else
    let scheme := octets.takeWhile isSchemeOctet
    let rest := octets.drop scheme.length
    if 3 < octets.length ∧ rest.take 3 = schemeMark then
      if scheme.length ≤ maxSchemeLength then .ok (some scheme, rest.drop 3)
      else .error .schemeTooLong
    else .ok (none, octets)

/-! ## Whole targets -/

/-- Reads a target of two or more octets that does not start with a slash. -/
def parseFull (grammar : Grammar) (octets : Octets) : Except TargetError Target :=
  match readScheme octets with
  | .error fault => .error fault
  | .ok (scheme?, rest) =>
      match readAuthority rest with
      | .error fault => .error fault
      | .ok (host, tail) =>
          match scheme? with
          | none => if tail.isEmpty then .ok (.authority (asciiText host)) else .error .badFormat
          | some scheme =>
              if host.isEmpty then .error .badFormat
              else
                (readPathAndQuery grammar tail).map fun (path, query) =>
                  .absolute (asciiText scheme) (asciiText host) path query

/-- Reads a target of one octet that is neither a slash nor an asterisk. -/
def parseSingle (octet : UInt8) : Except TargetError Target :=
  match readAuthority [octet] with
  | .error fault => .error fault
  | .ok (host, tail) =>
      if tail.isEmpty then .ok (.authority (asciiText host)) else .error .badCharacter

def parse (octets : Octets) (grammar : Grammar := .strict) : Except TargetError Target :=
  if maxLength < octets.length then .error .tooLong
  else
    match octets with
    | [] => .error .empty
    | [octet] =>
        if octet = slash then .ok (.origin "/" none)
        else if octet = 0x2A then .ok .asterisk
        else parseSingle octet
    | first :: _ =>
        if first = slash then
          (readPathAndQuery grammar octets).map fun (path, query) => .origin path query
        else parseFull grammar octets

end Target

end Beacon.Http
