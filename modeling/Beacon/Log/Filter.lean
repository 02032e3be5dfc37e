import Beacon.Log.Event
import Beacon.Log.Pattern
import Beacon.Text.Blank
import Beacon.Text.Decimal
import Beacon.Text.Utf8

/-!
# Log filters

A filter is a list of directives. The most specific directive that speaks about an event decides
whether the event passes: one with a longer target goes before one with a shorter target, and one
that asks for a field before one that does not. Of two directives about the same events the later
one counts. A filter is written with commas between its directives, each of the form `target`,
`level`, `target=level` or `target[span{field}]=level`.
-/

namespace Beacon.Log

/-! ## Limits -/

/-- The rank of the most detailed events that a limit with this name lets pass. -/
def namedLimit? (name : List Char) : Option Nat :=
  let small := String.ofList (name.map Char.toLower)
  if small = "off" then some 0
  else ([Level.error, .warn, .info, .debug, .trace].find? fun level =>
    String.ofList (level.name.toList.map Char.toLower) == small).map Level.rank

/-- The rank that a limit stands for: a number of at most five, or a name in letters of any
case. -/
def limit? (text : List Char) : Option Nat :=
  match Decimal.value? (Decimal.unsigned text) with
  | some rank => if rank ≤ 5 then some rank else none
  | none => namedLimit? text

/-! ## Directives -/

inductive FilterFault where
  | malformed
  /-- A part of the text begins or ends inside a character. -/
  | splitCharacter
  deriving DecidableEq, Repr

/-- A directive: the events it speaks about, and the rank of the most detailed ones to pass. -/
structure Directive where
  /-- The targets of the events begin with this. -/
  target : String
  /-- The events have a field of this name. -/
  field : Option String
  /-- The events are inside a span of a chosen kind; events here never are. -/
  inSpan : Bool
  limit : Nat
  deriving DecidableEq, Repr

namespace Directive

def everywhere (limit : Nat) : Directive :=
  ⟨"", none, false, limit⟩

/-- Whether an event has a field; every event has its message. -/
def hasField (event : Event) (name : String) : Bool :=
  name == "message" || event.fields.any fun entry => entry.1 == name

def selects (directive : Directive) (event : Event) : Bool :=
  !directive.inSpan && directive.target.toList.isPrefixOf event.source.target.toList &&
    directive.field.all (hasField event)

/-- Whether the second directive is at least as specific as the first. -/
def yieldsTo (first second : Directive) : Bool :=
  if first.target.utf8ByteSize ≠ second.target.utf8ByteSize then
    first.target.utf8ByteSize < second.target.utf8ByteSize
  else
    match first.field, second.field with
    | none, _ => true
    | some _, none => false
    | some a, some b => a ≤ b

/-! ### Reading directives -/

def unlimited : Directive :=
  everywhere Level.trace.rank

/-- How far the reading of a directive has come, with the place at which the part begins that is
being read. -/
inductive Reading where
  | start
  | word (first : Nat)
  | span (draft : Directive) (first : Nat)
  | field (draft : Directive) (first : Nat)
  /-- A field is closed; the span is not. -/
  | fieldClosed (draft : Directive)
  | spanClosed (draft : Directive)
  | limit (draft : Directive) (first : Nat)

def startsTarget (c : Char) : Bool :=
  c == '-' || c == ':' || c == '_' || Text.isAlphanumeric c

/-- Whether octets can be divided at a place: no character goes on there. -/
def isBoundary (octets : Octets) (place : Nat) : Bool :=
  match octets[place]? with
  | some octet => !Utf8.isTail octet
  | none => true

def part (octets : Octets) (first last : Nat) : Except FilterFault (List Char) :=
  if isBoundary octets first && isBoundary octets last then
    .ok (Utf8.lossy ((octets.drop first).take (last - first)))
  else .error .splitCharacter

/-- A directive that asks for a field. One that asks for a field's value, of which only the text
up to a second equals sign counts, speaks about spans. -/
def withField (draft : Directive) (field : List Char) : Except FilterFault Directive :=
  if field.isEmpty then .error .malformed
  else
    match field.splitOn '=' with
    | _ :: value :: _ =>
        if Pattern.asksForValue value then .ok { draft with inSpan := true } else .error .malformed
    | _ => .ok { draft with field := some (String.ofList field) }

def readChar (octets : Octets) (reading : Reading) (c : Char) (i : Nat) :
    Except FilterFault Reading :=
  match reading with
  | .start =>
      if c = '[' then .ok (.span unlimited (i + 1))
      else if startsTarget c then .ok (.word i)
      else .error .malformed
  | .word first => do
      if c = '=' then
        return .limit { unlimited with target := String.ofList (← part octets first i) } (i + 1)
      if c = '[' then
        return .span { unlimited with target := String.ofList (← part octets first i) } (i + 1)
      return .word first
  | .span draft first => do
      if c = ']' then
        let _ ← part octets first i
        return .spanClosed { draft with inSpan := true }
      if c = '\x7b' then
        let name ← part octets first i
        return .field { draft with inSpan := !name.isEmpty } (i + 1)
      return .span draft first
  | .field draft first => do
      if c = '\x7d' then return .fieldClosed (← draft.withField (← part octets first i))
      return .field draft first
  | .fieldClosed draft => if c = ']' then .ok (.spanClosed draft) else .error .malformed
  | .spanClosed draft => if c = '=' then .ok (.limit draft (i + 1)) else .error .malformed
  | .limit draft first => .ok (.limit draft first)

/-- The directive that has been read when its text ends. A word alone is a limit if it can be
one, and a target otherwise; a target alone lets everything pass. -/
def finish (octets : Octets) : Reading → Except FilterFault Directive
  | .word first => do
      let word ← part octets first octets.length
      match limit? word with
      | some rank => return everywhere rank
      | none => return { unlimited with target := String.ofList word }
  | .limit draft first => do
      let name ← part octets first octets.length
      if name.isEmpty then return draft
      match limit? name with
      | some rank => return { draft with limit := rank }
      | none => .error .malformed
  | .spanClosed draft => .ok draft
  | _ => .error .malformed

def readFrom (octets : Octets) (reading : Reading) (place : Nat) :
    List Char → Except FilterFault Directive
  | [] => finish octets reading
  | c :: rest => do readFrom octets (← readChar octets reading c place) (place + c.utf8Size) rest

/-- Reads a directive. The blanks at the ends of its text are passed over as its marks are
looked for, but the places of the marks are then taken in the whole text. -/
def parse (text : List Char) : Except FilterFault Directive :=
  readFrom (Utf8.encode text) .start 0 (Text.trim text)

end Directive

/-! ## Filters -/

structure Filter where
  directives : List Directive
  deriving DecidableEq, Repr

namespace Filter

/-- The filter that lets the same events pass whatever their target. -/
def everywhere (level : Level) : Filter :=
  ⟨[.everywhere level.rank]⟩

/-- Reads a filter. Commas with nothing between them count as one; without any directive only
errors pass. -/
def parse (text : String) : Except FilterFault Filter := do
  let pieces := (text.toList.splitOn ',').filter fun piece => !piece.isEmpty
  if pieces.isEmpty then return everywhere .error
  return ⟨← pieces.mapM Directive.parse⟩

def deciding? (filter : Filter) (event : Event) : Option Directive :=
  let choose (best : Option Directive) (directive : Directive) : Option Directive :=
    match best with
    | none => some directive
    | some leader => if leader.yieldsTo directive then some directive else some leader
  (filter.directives.filter (·.selects event)).foldl choose none

def passes (filter : Filter) (event : Event) : Bool :=
  match filter.deciding? event with
  | some directive => event.level.rank ≤ directive.limit
  | none => false

/-- The filter that a text asks for. A malformed text leaves the given filter; one that cannot be
divided at its marks leaves none. -/
def orElse (text : Option String) (fallback : Filter) : Option Filter :=
  match text.map parse with
  | some (.ok filter) => some filter
  | some (.error .splitCharacter) => none
  | _ => some fallback

end Filter

end Beacon.Log
