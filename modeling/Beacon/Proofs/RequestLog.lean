import Beacon.Proofs.Accounting
import Beacon.Proofs.Arrivals
import Beacon.Proofs.Http.Wire

/-!
# The log of requests

Every request that reaches a router of a service is logged as one event. The line of the event shows
the method and the path that were recorded, and whatever a client sends, neither of them holds a
space or a control character: the line is no more than one, and tells them.

The path that is recorded tells the path and the query of a target, but neither its scheme nor its
authority.
-/

namespace Beacon

open Http

/-! ## Events -/

namespace Service

/-- The event with which a service logs a request. -/
def requestEvent (service : Service) (request : Request) : Log.Event :=
  (service.handle request).2.event

end Service

theorem Sink.events_recordAll (records : List Record) :
    (logged.recordAll records).2 = records.map Record.event := by
  induction records with
  | nil => rfl
  | cons entry rest ih => exact congrArg (entry.event :: ·) ih

/-- A request that is sent is logged as one event. -/
theorem events_send_logged (service : Service) {grammar : Target.Grammar} {draft : Draft}
    {request : Request} (h : draft.build grammar = .ok request) :
    (Application.send ⟨service, .logged⟩ draft grammar).events =
      [service.requestEvent request] := by
  rw [Application.send, h]
  rfl

/-- The requests that are read from a connection are logged as one event each, in their order. -/
theorem events_serveConnection (service : Service) (octets : Octets) :
    (Sink.logged.recordAll (serveConnection service octets).records).2 =
      (requestsOf firstLook octets).map service.requestEvent := by
  rw [Sink.events_recordAll, serveConnection,
    records_serveOctets service .oneOne (Nat.le_refl octets.length), List.map_map]
  rfl

/-! ## Lines -/

/-- The space and the control characters of ASCII. -/
def IsSpaceOrControl (char : Char) : Prop :=
  char.toNat ≤ 0x20 ∨ char.toNat = 0x7F

instance (char : Char) : Decidable (IsSpaceOrControl char) :=
  inferInstanceAs (Decidable (_ ∨ _))

/-- What may stand in a request line, but for the delete character where it is admitted, holds
neither spaces nor other control characters. -/
theorem not_mem_of_isTargetOctet {grammar : Target.Grammar} {text : String}
    (h : ∀ octet ∈ Utf8.octets text, (octet = Target.delete → grammar = .strict) →
      RequestHead.isTargetOctet octet = true)
    {char : Char} (hchar : IsSpaceOrControl char)
    (hdelete : char.toNat = 0x7F → grammar = .strict) : char ∉ text.toList := by
  have hascii : char.toNat ≤ 0x7F := hchar.elim (by omega) Nat.le_of_eq
  have hvalue := Utf8.toNat_ofNat_of_lt (show char.toNat < 256 by omega)
  intro hmem
  have hoctet := h _ ((Utf8.mem_encode_iff char hascii text.toList).mpr hmem) fun heq => by
    rw [heq] at hvalue
    exact hdelete hvalue.symm
  simp only [RequestHead.isTargetOctet, UInt8.le_iff_toNat_le, ne_eq, ← UInt8.toNat_inj,
    UInt8.reduceToNat, Bool.and_eq_true, decide_eq_true_eq, hvalue] at hoctet
  obtain hspace | hdelete := hchar <;> omega

/-- What is recorded of a target may stand in a request line, but for the delete character where it
is admitted. -/
theorem isTargetOctet_recorded {grammar : Target.Grammar} {octets : Octets} {target : Target}
    (h : Target.parse octets grammar = .ok target) :
    ∀ octet ∈ Utf8.octets target.recorded, (octet = Target.delete → grammar = .strict) →
      RequestHead.isTargetOctet octet = true := by
  have hspells := Target.spells_of_parse h
  generalize Target.beforeFragment octets = shown at hspells
  cases hspells with
  | asterisk =>
      have hmark : ∀ octet ∈ Utf8.octets Target.asterisk.recorded,
          RequestHead.isTargetOctet octet = true := by
        decide
      exact fun octet hmem _ => hmark octet hmem
  | origin hslash hparts => exact hparts.isTargetOctet
  | authority hhost => rintro octet ⟨⟩
  | @absolute spelled host scheme path query hspelled hscheme hhost hslash hparts =>
      rw [Target.recorded]
      split
      · have hroot : ∀ octet ∈ Utf8.octets "/", RequestHead.isTargetOctet octet = true := by decide
        exact fun octet hmem _ => hroot octet hmem
      · exact hparts.isTargetOctet

theorem isTargetOctet_name (method : Method) :
    ∀ octet ∈ Utf8.octets method.name, RequestHead.isTargetOctet octet = true := by
  rw [method.octets_name]
  exact fun octet hmem => Target.isTargetOctet_of_visible (method.visible_of_mem octet hmem)

namespace Record

variable {grammar : Target.Grammar}

/-- A record whose method holds neither spaces nor control characters, and whose path holds none but
the delete character where the grammar of the target admits it. -/
structure IsPlain (grammar : Target.Grammar) (record : Record) : Prop where
  method : ∀ char, IsSpaceOrControl char → char ∉ record.method.toList
  path : ∀ char, IsSpaceOrControl char → (char.toNat = 0x7F → grammar = .strict) →
    char ∉ record.path.toList

theorem toList_line (record : Record) :
    record.line.toList = '[' :: (record.service.toList ++
      ']' :: ' ' :: (record.method.toList ++ ' ' :: record.path.toList)) := by
  simp only [line, String.toList_append, List.append_assoc]
  rfl

/-- The line of a record adds two spaces to those of the service's name. -/
theorem count_line {record : Record} (h : record.IsPlain grammar) {char : Char}
    (hchar : IsSpaceOrControl char) (hdelete : char.toNat = 0x7F → grammar = .strict) :
    record.line.toList.count char =
      record.service.toList.count char + if char = ' ' then 2 else 0 := by
  have hmethod := List.count_eq_zero_of_not_mem (h.method char hchar)
  have hpath := List.count_eq_zero_of_not_mem (h.path char hchar hdelete)
  have hopen : '[' ≠ char := by
    rintro rfl
    exact absurd hchar (by decide)
  have hclose : ']' ≠ char := by
    rintro rfl
    exact absurd hchar (by decide)
  rw [toList_line, List.count_cons_of_ne hopen, List.count_append, List.count_cons_of_ne hclose,
    List.count_cons, List.count_append, List.count_cons, hmethod, hpath]
  by_cases hspace : char = ' '
  · rw [hspace]
    rfl
  · rw [if_neg hspace, if_neg (by simpa using Ne.symm hspace)]

/-- Lines of one service tell the method and the path. -/
theorem eq_of_line_eq {grammar' : Target.Grammar} {record other : Record}
    (h : record.IsPlain grammar) (hother : other.IsPlain grammar')
    (hservice : record.service = other.service) (hline : record.line = other.line) :
    record.method = other.method ∧ record.path = other.path := by
  have hspace : IsSpaceOrControl ' ' := .inl (by decide)
  have hplain : ∀ {grammar : Target.Grammar} {record : Record}, record.IsPlain grammar →
      ∀ char ∈ record.method.toList, decide (char ≠ ' ') = true := by
    intro grammar record hrecord char hmem
    rw [decide_eq_true_eq]
    rintro rfl
    exact hrecord.method ' ' hspace hmem
  have hlist := congrArg String.toList hline
  rw [toList_line, toList_line, hservice, List.cons.injEq, List.append_cancel_left_eq,
    List.cons.injEq, List.cons.injEq] at hlist
  obtain ⟨hmethod, hpath⟩ := split_unique (· ≠ ' ') (hplain h) (hplain hother)
    (by rintro char ⟨⟩; rfl) (by rintro char ⟨⟩; rfl) hlist.2.2.2
  exact ⟨String.toList_injective hmethod, String.toList_injective (List.cons.inj hpath).2⟩

end Record

/-- Whatever request reaches a router, its record is plain. -/
theorem Arrives.isPlain {grammar : Target.Grammar} {target : String} {request : Request}
    (h : Arrives grammar target request) (service : Service) :
    (service.handle request).2.IsPlain grammar := by
  rw [service.handle_snd]
  refine ⟨fun char hchar => ?_, fun char hchar hdelete =>
    not_mem_of_isTargetOctet (isTargetOctet_recorded h.parse) hchar hdelete⟩
  have hname : ∀ octet ∈ Utf8.octets request.method.name,
      (octet = Target.delete → Target.Grammar.strict = .strict) →
        RequestHead.isTargetOctet octet = true :=
    fun octet hmem _ => isTargetOctet_name request.method octet hmem
  exact not_mem_of_isTargetOctet hname hchar fun _ => rfl

/-- How a service logs the requests that reach a router of it. -/
structure LogsApart (service : Service) : Prop where
  /-- A request that is sent to a router leaves one event. -/
  sent : ∀ {grammar : Target.Grammar} {draft : Draft} {request : Request},
    draft.build grammar = .ok request →
      (Application.send ⟨service, .logged⟩ draft grammar).events = [service.requestEvent request]
  /-- The requests that are read from the octets of a connection leave one event each. -/
  received : ∀ octets,
    (Sink.logged.recordAll (serveConnection service octets).records).2 =
      (requestsOf firstLook octets).map service.requestEvent
  arrived : ∀ octets, ∀ request ∈ requestsOf firstLook octets,
    ∃ target, Arrives .strict target request
  message : ∀ {grammar : Target.Grammar} {target : String} {request : Request},
    Arrives grammar target request →
      (service.requestEvent request).message =
        "[" ++ service.identity.name ++ "] " ++ request.method.name ++ " " ++
          (service.handle request).2.path
  /-- Beside the name there are the two spaces that separate the parts, and nothing else that could
  be taken for a space or the end of a line. The strict grammar makes no exception, the lenient one
  that of the delete character. -/
  adds : ∀ {grammar : Target.Grammar} {target : String} {request : Request},
    Arrives grammar target request →
      ∀ char, IsSpaceOrControl char → (char.toNat = 0x7F → grammar = .strict) →
        (service.requestEvent request).message.toList.count char =
          service.identity.name.toList.count char + if char = ' ' then 2 else 0
  oneLine : ∀ {grammar : Target.Grammar} {target : String} {request : Request},
    Arrives grammar target request →
      ∀ char, IsSpaceOrControl char → (char.toNat = 0x7F → grammar = .strict) → char ≠ ' ' →
        char ∉ service.identity.name.toList →
          char ∉ (service.requestEvent request).message.toList
  apart : ∀ {grammar grammar' : Target.Grammar} {target other : String}
    {request request' : Request}, Arrives grammar target request →
      Arrives grammar' other request' →
        (service.requestEvent request).message = (service.requestEvent request').message →
          (service.handle request).2.method = (service.handle request').2.method ∧
            (service.handle request).2.path = (service.handle request').2.path

/-- Whatever requests reach a router, each of them is logged as one event, whose line adds no space
or control character to the name but the two that separate its parts, and tells method and path. -/
theorem request_lines_unforgeable (service : Service) : LogsApart service where
  sent := events_send_logged service
  received := events_serveConnection service
  arrived := fun _ => exists_arrives_of_mem
  message := by
    intro grammar target request _
    rw [Service.requestEvent, service.handle_snd]
    rfl
  adds := by
    intro grammar target request harrives char hchar hdelete
    have hcount := Record.count_line (harrives.isPlain service) hchar hdelete
    rw [service.handle_snd] at hcount
    rw [Service.requestEvent, service.handle_snd]
    exact hcount
  oneLine := by
    intro grammar target request harrives char hchar hdelete hspace hname
    have hcount := Record.count_line (harrives.isPlain service) hchar hdelete
    rw [service.handle_snd, if_neg hspace] at hcount
    rw [Service.requestEvent, service.handle_snd, ← List.count_eq_zero]
    exact hcount.trans (List.count_eq_zero.mpr hname)
  apart := by
    intro grammar grammar' target other request request' harrives harrives' hmessage
    refine Record.eq_of_line_eq (harrives.isPlain service) (harrives'.isPlain service) ?_ hmessage
    rw [service.handle_snd, service.handle_snd]
    rfl

/-! ## What the paths tell -/

/-- What is recorded of the rest behind an authority: where nothing is left, that is the root. -/
def rooted (rest : String) : String :=
  if rest = "" then "/" else rest

/-- An absolute target, and what is behind its authority. -/
inductive Behind : String → String → Prop where
  | intro {scheme authority rest : String} (hscheme : IsSchemeText scheme)
      (hauthority : IsAuthorityText authority)
      (hrest : rest = "" ∨ rest.toList.head? = some '/' ∨ rest.toList.head? = some '?') :
      Behind (scheme ++ "://" ++ authority ++ rest) rest

/-- The texts before a fragment that are recorded alike: all authorities are, and so are absolute
targets that differ in nothing but scheme and authority, and the rest of one by itself. -/
inductive SharesPath : String → String → Prop where
  | same (target : String) : SharesPath target target
  | authorities {target other : String} (h : IsAuthorityText target) (hmark : target ≠ "*")
      (hother : IsAuthorityText other) (hmark' : other ≠ "*") : SharesPath target other
  | absolutes {target other rest rest' : String} (h : Behind target rest)
      (hother : Behind other rest') (hrest : rooted rest = rooted rest') :
      SharesPath target other
  | origin {target rest : String} (h : Behind target rest)
      (hslash : (rooted rest).toList.head? = some '/') : SharesPath target (rooted rest)
  | symm {target other : String} (h : SharesPath target other) : SharesPath other target

theorem Behind.head?_rooted {target rest : String} (h : Behind target rest) :
    (rooted rest).toList.head? = some '/' ∨ (rooted rest).toList.head? = some '?' := by
  cases h with
  | intro _ _ hrest =>
      unfold rooted
      split
      · exact .inl (by decide)
      next hne => exact hrest.resolve_left hne

theorem Behind.rooted_ne_empty {target rest : String} (h : Behind target rest) :
    rooted rest ≠ "" := by
  intro hempty
  have hhead := h.head?_rooted
  rw [hempty] at hhead
  exact absurd hhead (by decide)

theorem Behind.rooted_ne_asterisk {target rest : String} (h : Behind target rest) :
    rooted rest ≠ "*" := by
  intro hmark
  have hhead := h.head?_rooted
  rw [hmark] at hhead
  exact absurd hhead (by decide)

/-- What is recorded of an absolute target is never all of it. -/
theorem Behind.rooted_ne {target rest : String} (h : Behind target rest) :
    rooted rest ≠ target := by
  cases h with
  | @intro scheme authority rest hscheme _ _ =>
      intro hsame
      unfold rooted at hsame
      split at hsame
      · have hhead := head?_absolute_ne hscheme authority rest
        rw [← hsame] at hhead
        exact hhead rfl
      · have hlength := congrArg String.length hsame
        rw [String.length_append, String.length_append, String.length_append] at hlength
        have hmark : "://".length = 3 := rfl
        omega

namespace RecordedAs

variable {target other shown : String}

theorem eq_rooted {rest : String} (h : RecordedAs target shown) (hbehind : Behind target rest) :
    shown = rooted rest := by
  cases hbehind with
  | intro hscheme hauthority hrest => exact eq_of_absolute hscheme hauthority hrest h

theorem eq_empty (h : RecordedAs target shown) (hauthority : IsAuthorityText target)
    (hmark : target ≠ "*") : shown = "" := by
  rw [h.eq_of_not_mem hauthority.slash_not_mem, if_neg hmark]

/-- The ways in which a text is recorded: as it is, as nothing, or as what is behind an authority.
-/
theorem as_is_or_empty_or_rooted (h : RecordedAs target shown) :
    ((target = "*" ∨ target.toList.head? = some '/') ∧ shown = target) ∨
      ((IsAuthorityText target ∧ target ≠ "*") ∧ shown = "") ∨
        ∃ rest, Behind target rest ∧ shown = rooted rest := by
  cases h with
  | asterisk => exact .inl ⟨.inl rfl, rfl⟩
  | path hslash => exact .inl ⟨.inr hslash, rfl⟩
  | authority hauthority hmark => exact .inr (.inl ⟨⟨hauthority, hmark⟩, rfl⟩)
  | absolute hscheme hauthority hrest =>
      exact .inr (.inr ⟨_, .intro hscheme hauthority hrest, rfl⟩)

/-- Nothing is recorded of an authority alone, and of nothing else. -/
theorem eq_empty_iff (h : RecordedAs target shown) :
    shown = "" ↔ IsAuthorityText target ∧ target ≠ "*" := by
  constructor
  · rintro rfl
    obtain ⟨hplain, rfl⟩ | ⟨hauthority, -⟩ | ⟨rest, hbehind, hrest⟩ := h.as_is_or_empty_or_rooted
    · exact absurd hplain (by decide)
    · exact hauthority
    · exact absurd hrest.symm hbehind.rooted_ne_empty
  · rintro ⟨hauthority, hmark⟩
    exact h.eq_empty hauthority hmark

/-- A text is recorded as it is if it starts with a slash, or is the asterisk. -/
theorem eq_self_iff (h : RecordedAs target shown) :
    shown = target ↔ target = "*" ∨ target.toList.head? = some '/' := by
  constructor
  · rintro rfl
    obtain ⟨hplain, -⟩ | ⟨hauthority, hempty⟩ | ⟨rest, hbehind, hrest⟩ :=
      h.as_is_or_empty_or_rooted
    · exact hplain
    · exact absurd hempty hauthority.1.1
    · exact absurd hrest.symm hbehind.rooted_ne
  · rintro (rfl | hslash)
    · exact h.eq_of_not_mem (by decide)
    · exact h.eq_of_head? hslash

/-- What is recorded as it is shares its path with nothing but itself and absolute targets. -/
theorem sharesPath_of_as_is (hplain : target = "*" ∨ target.toList.head? = some '/')
    (h : RecordedAs other target) : SharesPath other target := by
  obtain ⟨-, rfl⟩ | ⟨-, rfl⟩ | ⟨rest, hbehind, rfl⟩ := h.as_is_or_empty_or_rooted
  · exact .same target
  · exact absurd hplain (by decide)
  · exact .origin hbehind (hplain.resolve_left hbehind.rooted_ne_asterisk)

/-- Texts that are recorded alike share their path. -/
theorem sharesPath (h : RecordedAs target shown) (hother : RecordedAs other shown) :
    SharesPath target other := by
  obtain ⟨hplain, rfl⟩ | ⟨hauthority, rfl⟩ | ⟨rest, hbehind, rfl⟩ := h.as_is_or_empty_or_rooted
  · exact .symm (sharesPath_of_as_is hplain hother)
  · obtain ⟨hauthority', hmark'⟩ := hother.eq_empty_iff.mp rfl
    exact .authorities hauthority.1 hauthority.2 hauthority' hmark'
  · obtain ⟨hplain, hshown⟩ | ⟨-, hshown⟩ | ⟨rest', hbehind', hshown⟩ :=
      hother.as_is_or_empty_or_rooted
    · rw [hshown] at h
      exact sharesPath_of_as_is hplain h
    · exact absurd hshown hbehind.rooted_ne_empty
    · exact .absolutes hbehind hbehind' hshown

/-- Texts that share their path are recorded alike. -/
theorem eq_of_sharesPath {shown' : String} (hshares : SharesPath target other)
    (h : RecordedAs target shown) (hother : RecordedAs other shown') : shown = shown' := by
  induction hshares generalizing shown shown' with
  | same => exact h.unique hother
  | authorities hauthority hmark hauthority' hmark' =>
      rw [h.eq_empty hauthority hmark, hother.eq_empty hauthority' hmark']
  | absolutes hbehind hbehind' hrest =>
      rw [h.eq_rooted hbehind, hother.eq_rooted hbehind', hrest]
  | origin hbehind hslash => rw [h.eq_rooted hbehind, hother.eq_of_head? hslash]
  | symm _ ih => exact (ih hother h).symm

end RecordedAs

/-- What the paths that a service records tell of the targets. -/
structure TellsPathAndQuery (service : Service) : Prop where
  recorded : ∀ {grammar : Target.Grammar} {target : String} {request : Request},
    Arrives grammar target request →
    RecordedAs (withoutFragment target) (service.handle request).2.path
  empty_iff : ∀ {grammar : Target.Grammar} {target : String} {request : Request},
    Arrives grammar target request →
    ((service.handle request).2.path = "" ↔
      IsAuthorityText (withoutFragment target) ∧ withoutFragment target ≠ "*")
  full_iff : ∀ {grammar : Target.Grammar} {target : String} {request : Request},
    Arrives grammar target request →
    ((service.handle request).2.path = withoutFragment target ↔
      withoutFragment target = "*" ∨ (withoutFragment target).toList.head? = some '/')
  alike_iff : ∀ {grammar grammar' : Target.Grammar} {target other : String}
    {request request' : Request}, Arrives grammar target request →
    Arrives grammar' other request' →
      ((service.handle request).2.path = (service.handle request').2.path ↔
        SharesPath (withoutFragment target) (withoutFragment other))

/-- The path that is recorded tells the path and the query of a target. It tells nothing of an
authority and a scheme, so two targets are recorded alike if they differ in nothing else, and an
authority alone is recorded as nothing. -/
theorem paths_tell_path_and_query (service : Service) : TellsPathAndQuery service := by
  have hrecorded : ∀ {grammar : Target.Grammar} {target : String} {request : Request},
      Arrives grammar target request →
        RecordedAs (withoutFragment target) (service.handle request).2.path := by
    intro grammar target request harrives
    rw [service.handle_snd]
    exact recordedAs_of_parse harrives.parse
  refine ⟨hrecorded, fun harrives => (hrecorded harrives).eq_empty_iff,
    fun harrives => (hrecorded harrives).eq_self_iff, ?_⟩
  intro grammar grammar' target other request request' harrives harrives'
  constructor
  · intro hpath
    have hother := hrecorded harrives'
    rw [← hpath] at hother
    exact (hrecorded harrives).sharesPath hother
  · intro hshares
    exact RecordedAs.eq_of_sharesPath hshares (hrecorded harrives) (hrecorded harrives')

/-- Absolute targets with other authorities, and an authority alone, are not recorded in full. -/
theorem authorities_are_not_recorded :
    ∃ first second bare : Request,
      Request.build "GET" "http://a/health" [] = .ok first ∧
      Request.build "GET" "http://b/health" [] = .ok second ∧
      Request.build "GET" "localhost:80" [] = .ok bare ∧
      withoutFragment "http://a/health" ≠ withoutFragment "http://b/health" ∧
      ((Service.ofConfig .api .default).handle first).2.path =
        ((Service.ofConfig .api .default).handle second).2.path ∧
      ((Service.ofConfig .api .default).handle bare).2.path = "" := by
  have hfirst : Request.build "GET" "http://a/health" [] =
      .ok ⟨.get, .absolute "http" "a" "/health" none, []⟩ := by decide +kernel
  have hsecond : Request.build "GET" "http://b/health" [] =
      .ok ⟨.get, .absolute "http" "b" "/health" none, []⟩ := by decide +kernel
  have hbare : Request.build "GET" "localhost:80" [] =
      .ok ⟨.get, .authority "localhost:80", []⟩ := rfl
  refine ⟨_, _, _, hfirst, hsecond, hbare, by decide, ?_, ?_⟩
  · rw [Service.handle_snd, Service.handle_snd]
    rfl
  · rw [Service.handle_snd]
    rfl

end Beacon
