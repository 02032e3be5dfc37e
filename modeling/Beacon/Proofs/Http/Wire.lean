import Beacon.Http.RequestHead
import Beacon.Proofs.Http.Head
import Beacon.Proofs.Http.Target

/-!
# Targets on the wire

A target is read from a text, written into a request line, and read again at the other end. Its
fragment is lost on the way, and an absolute target without a path gets the root. Nothing else
changes, unless what is written is too long to be read.
-/

namespace Beacon.Http.Target

variable {grammar : Grammar}

def sent : Target → Target
  | .absolute scheme host path query =>
      .absolute scheme host (if path = "" then "/" else path) query
  | target => target

theorem path_sent (target : Target) : target.sent.path = target.path := by
  cases target with
  | absolute scheme host path query =>
      by_cases hpath : path = ""
      · subst hpath
        rfl
      · rw [sent, if_neg hpath]
  | _ => rfl

theorem query_sent (target : Target) : target.sent.query = target.query := by
  cases target <;> rfl

/-! ## Path and query -/

theorem readText_octets {allowed : UInt8 → Bool} {text : String}
    (h : ∀ octet ∈ Utf8.octets text, allowed octet = true) :
    readText allowed (Utf8.octets text) = .ok text := by
  have hdecode : Utf8.decode? (Utf8.octets text) = some text.toList := Utf8.decode?_encode _
  rw [readText, if_pos (List.all_eq_true.mpr h), hdecode]
  exact congrArg Except.ok String.ofList_toList

namespace IsPathAndQuery

variable {path : String} {query : Option String}

/-- No octet of a path and a query starts a fragment. -/
theorem ne_numberSign (hparts : IsPathAndQuery grammar path query) :
    ∀ octet ∈ Utf8.octets (withQuery path query), octet ≠ numberSign := by
  intro octet hmem
  cases query with
  | none => exact (ne_of_isPathOctet (hparts.path_octets octet hmem)).2
  | some text =>
      rw [octets_withQuery_some, List.mem_append, List.mem_cons] at hmem
      rcases hmem with hmem | rfl | hmem
      · exact (ne_of_isPathOctet (hparts.path_octets octet hmem)).2
      · decide
      · exact ne_numberSign_of_isQueryOctet (hparts.query_octets text rfl octet hmem)

/-- A path and a query that are spelled are read. -/
theorem read (hparts : IsPathAndQuery grammar path query) :
    readPathAndQuery grammar (Utf8.octets (withQuery path query)) = .ok (path, query) := by
  have hshown : beforeFragment (Utf8.octets (withQuery path query)) =
      Utf8.octets (withQuery path query) := by
    have happend := beforeFragment_append hparts.ne_numberSign []
    rwa [List.append_nil, show beforeFragment [] = [] from rfl, List.append_nil] at happend
  have hpath : ∀ octet ∈ Utf8.octets path, decide (octet ≠ questionMark) = true :=
    fun octet hmem => decide_eq_true (ne_of_isPathOctet (hparts.path_octets octet hmem)).1
  simp only [readPathAndQuery, hshown]
  cases query with
  | none =>
      have htake := List.takeWhile_eq_self_iff.mpr hpath
      have hdrop := List.dropWhile_eq_nil_iff.mpr hpath
      rw [withQuery, htake, hdrop, readText_octets hparts.path_octets]
  | some text =>
      have htake := takeWhile_append_stop questionMark hpath (by decide) (Utf8.octets text)
      have hdrop : (Utf8.octets path ++ questionMark :: Utf8.octets text).dropWhile
          (· ≠ questionMark) = questionMark :: Utf8.octets text := by
        rw [List.dropWhile_append_of_pos hpath]
        exact dropWhile_of_head? (by rintro octet ⟨⟩; decide)
      rw [octets_withQuery_some, htake, hdrop, readText_octets hparts.path_octets]
      simp only [readText_octets (hparts.query_octets text rfl)]
      rfl

/-- The root stands for a path that is left out. -/
theorem rooted (hparts : IsPathAndQuery grammar path query) :
    IsPathAndQuery grammar (if path = "" then "/" else path) query := by
  refine ⟨?_, hparts.query_octets⟩
  split
  · cases grammar <;> decide
  · exact hparts.path_octets

end IsPathAndQuery

/-! ## Authority -/

/-- An authority is read up to what ends it. -/
theorem IsHost.read {host tail : Octets} (hhost : IsHost host)
    (htail : ∀ octet ∈ tail.head?, endsAuthority octet = true) :
    readAuthority (host ++ tail) = .ok (host, tail) := by
  have hinside : ∀ octet ∈ host, (!endsAuthority octet) = true := fun octet hmem => by
    rw [hhost.inside octet hmem]
    rfl
  have hends : ∀ octet ∈ tail.head?, (!endsAuthority octet) = false := fun octet hmem => by
    rw [htail octet hmem]
    rfl
  have htake : (host ++ tail).takeWhile (fun octet => !endsAuthority octet) = host := by
    rw [List.takeWhile_append_of_pos hinside]
    cases tail with
    | nil => exact List.append_nil host
    | cons octet later =>
        rw [List.takeWhile_cons_of_neg (by simp [hends octet rfl]), List.append_nil]
  have hdrop : (host ++ tail).dropWhile (fun octet => !endsAuthority octet) = tail := by
    rw [List.dropWhile_append_of_pos hinside]
    exact dropWhile_of_head? hends
  have hempty : (host ++ tail).isEmpty = false := by
    rw [List.isEmpty_eq_false_iff]
    exact List.append_ne_nil_of_left_ne_nil hhost.nonempty tail
  simp only [readAuthority, hempty, htake, hdrop, hhost.checked]
  rfl

theorem next_of_isAuthorityOctet {octet : UInt8} (h : isAuthorityOctet octet = true) :
    AuthorityScan.start.next octet = .ok .start := by
  have hne : ∀ mark : UInt8, isAuthorityOctet mark = false → octet ≠ mark := by
    rintro mark hmark rfl
    rw [h] at hmark
    cases hmark
  rw [AuthorityScan.next, if_neg (hne 0x3A (by decide)), if_neg (hne 0x5B (by decide)),
    if_neg (hne 0x5D (by decide)), if_neg (hne 0x40 (by decide)), if_neg (hne 0x25 (by decide)),
    if_pos h]
  rfl

/-- Octets that may stand in an authority without further conditions are one. -/
theorem isHost_of_isAuthorityOctet {host : Octets} (hnonempty : host ≠ [])
    (h : ∀ octet ∈ host, isAuthorityOctet octet = true) : IsHost host where
  nonempty := hnonempty
  inside := by
    intro octet hmem
    rw [endsAuthority_eq_false_iff]
    refine ⟨?_, ?_, ?_⟩
    all_goals
      rintro rfl
      exact absurd (h _ hmem) (by decide)
  checked := by
    have hfold : host.foldlM AuthorityScan.next .start = .ok .start := by
      clear hnonempty
      induction host with
      | nil => rfl
      | cons octet later ih =>
          rw [List.foldlM_cons, next_of_isAuthorityOctet (h octet List.mem_cons_self)]
          exact ih fun other hmem => h other (List.mem_cons_of_mem _ hmem)
    rw [checkAuthority, hfold]
    rfl

/-! ## Scheme -/

/-- What stands before the mark is the scheme that octets start with. -/
theorem lower_of_startsWithScheme {usual scheme rest : Octets}
    (husual : ∀ octet ∈ usual, isSchemeOctet octet = true)
    (hscheme : ∀ octet ∈ scheme, isSchemeOctet octet = true)
    (h : startsWithScheme usual (scheme ++ schemeMark ++ rest) = true) :
    scheme.map lower = usual := by
  obtain ⟨spelled, hoctets, hlower⟩ := spelled_of_startsWithScheme h
  have htake : ∀ {front : Octets} (later : Octets),
      (∀ octet ∈ front, isSchemeOctet octet = true) →
        (front ++ schemeMark ++ later).takeWhile isSchemeOctet = front := by
    intro front later hfront
    rw [List.append_assoc]
    exact takeWhile_append_stop 0x3A hfront (by decide) _
  have hsame := congrArg (List.takeWhile isSchemeOctet) hoctets
  rw [htake rest hscheme, htake _ (isSchemeOctet_of_usual hlower husual)] at hsame
  rw [hsame, hlower]

/-- A scheme is read as it is kept. -/
theorem IsScheme.read {scheme rest : Octets} (h : IsScheme scheme) (hrest : rest ≠ []) :
    readScheme (scheme ++ schemeMark ++ rest) = .ok (some scheme, rest) := by
  have hstarts : ∀ usual ∈ [httpScheme, httpsScheme], scheme ≠ usual →
      ¬ startsWithScheme usual (scheme ++ schemeMark ++ rest) = true := by
    intro usual hmem hne hstarts
    have husual : ∀ usual ∈ [httpScheme, httpsScheme],
        ∀ octet ∈ usual, isSchemeOctet octet = true := by decide
    exact hne (h.usual usual hmem
      (lower_of_startsWithScheme (husual usual hmem) h.octets hstarts))
  by_cases hhttp : scheme = httpScheme
  · subst hhttp
    rw [readScheme, if_pos (startsWithScheme_of_lower (by decide) rest)]
    rfl
  by_cases hhttps : scheme = httpsScheme
  · subst hhttps
    rw [readScheme, if_neg (hstarts httpScheme (by decide) (by decide)),
      if_pos (startsWithScheme_of_lower (by decide) rest)]
    rfl
  have htake : (scheme ++ schemeMark ++ rest).takeWhile isSchemeOctet = scheme := by
    rw [List.append_assoc]
    exact takeWhile_append_stop 0x3A h.octets (by decide) _
  have hdrop : (scheme ++ schemeMark ++ rest).drop scheme.length = schemeMark ++ rest := by
    rw [List.append_assoc, List.drop_left]
  have hlength : 3 < (scheme ++ schemeMark ++ rest).length := by
    have hpositive := List.length_pos_iff.mpr hrest
    simp only [List.length_append, schemeMark, List.length_cons, List.length_nil]
    omega
  rw [readScheme, if_neg (hstarts httpScheme (by decide) hhttp),
    if_neg (hstarts httpsScheme (by decide) hhttps)]
  simp only [htake, hdrop]
  rw [if_pos ⟨hlength, rfl⟩, if_pos h.length]
  rfl

/-! ## Whole targets -/

theorem length_of_parse {octets : Octets} {target : Target}
    (h : parse octets grammar = .ok target) :
    octets.length ≤ maxLength := by
  by_contra hlong
  rw [parse.eq_def, if_pos (Nat.lt_of_not_le hlong)] at h
  cases h

theorem parse_of_slash {octets : Octets} (hslash : octets.head? = some slash)
    (hlength : octets.length ≤ maxLength) :
    parse octets grammar =
      (readPathAndQuery grammar octets).map fun (path, query) => .origin path query := by
  match octets, hslash with
  | [_], rfl =>
      have hroot : IsPathAndQuery grammar "/" none :=
        ⟨by cases grammar <;> decide, by rintro text ⟨⟩⟩
      have hoctets : Utf8.octets (withQuery "/" none) = [slash] := by decide
      rw [← hoctets, hroot.read, hoctets]
      rfl
  | _ :: second :: rest, rfl =>
      rw [parse.eq_def, if_neg (Nat.not_lt.mpr hlength)]
      exact if_pos rfl

theorem parse_of_full {octets : Octets} (htwo : 2 ≤ octets.length)
    (hslash : octets.head? ≠ some slash) (hlength : octets.length ≤ maxLength) :
    parse octets grammar = parseFull grammar octets := by
  match octets, htwo with
  | first :: second :: rest, _ =>
      have hfirst : first ≠ slash := fun heq => hslash (congrArg some heq)
      rw [parse.eq_def, if_neg (Nat.not_lt.mpr hlength)]
      exact if_neg hfirst

/-- What starts with a slash is read as a path and a query. -/
theorem origin_of_parse {octets : Octets} {target : Target} (hslash : octets.head? = some slash)
    (h : parse octets grammar = .ok target) : ∃ path query, target = .origin path query := by
  rw [parse_of_slash hslash (length_of_parse h)] at h
  cases hread : readPathAndQuery grammar octets with
  | error fault =>
      rw [hread] at h
      cases h
  | ok parts =>
      rw [hread] at h
      cases h
      exact ⟨parts.1, parts.2, rfl⟩

theorem head?_absolute_ne {scheme : Octets} (hscheme : IsScheme scheme) (rest : Octets) :
    (scheme ++ schemeMark ++ rest).head? ≠ some slash := by
  intro hhead
  cases scheme with
  | nil => cases hhead
  | cons first later =>
      cases hhead
      exact ne_slash_of_isSchemeOctet (hscheme.octets slash List.mem_cons_self) rfl

/-- An absolute target that is spelled with its scheme as it is kept is read so. -/
theorem parse_absolute {scheme host : Octets} {path : String} {query : Option String}
    (hscheme : IsScheme scheme) (hhost : IsHost host)
    (hslash : path = "" ∨ (Utf8.octets path).head? = some slash)
    (hparts : IsPathAndQuery grammar path query)
    (hlength : (scheme ++ schemeMark ++ (host ++ Utf8.octets (withQuery path query))).length ≤
      maxLength) :
    parse (scheme ++ schemeMark ++ (host ++ Utf8.octets (withQuery path query))) grammar =
      .ok (.absolute (asciiText scheme) (asciiText host) path query) := by
  have hrest : host ++ Utf8.octets (withQuery path query) ≠ [] :=
    List.append_ne_nil_of_left_ne_nil hhost.nonempty _
  have htwo :
      2 ≤ (scheme ++ schemeMark ++ (host ++ Utf8.octets (withQuery path query))).length := by
    simp only [List.length_append, schemeMark, List.length_cons]
    omega
  have hempty : ¬ host.isEmpty = true := by
    rw [List.isEmpty_iff]
    exact hhost.nonempty
  rw [parse_of_full htwo (head?_absolute_ne hscheme _) hlength, parseFull, hscheme.read hrest]
  simp only [hhost.read (endsAuthority_head? hslash)]
  rw [if_neg hempty, hparts.read]
  rfl

/-! ## The wire form -/

theorem octets_wire_absolute (scheme host path : String) (query : Option String) :
    Utf8.octets (absolute scheme host path query).wire =
      Utf8.octets scheme ++ schemeMark ++
        (Utf8.octets host ++
          Utf8.octets (withQuery (if path = "" then "/" else path) query)) := by
  rw [wire, Utf8.octets_append, Utf8.octets_append, Utf8.octets_append, octets_schemeMark,
    List.append_assoc]

/-- A target that is written is read as it was sent, unless it is too long then. -/
theorem parse_wire {octets : Octets} {target : Target} (h : parse octets grammar = .ok target)
    (hlength : (Utf8.octets target.wire).length ≤ maxLength) :
    parse (Utf8.octets target.wire) grammar = .ok target.sent := by
  have hspells := spells_of_parse h
  generalize beforeFragment octets = shown at hspells
  cases hspells with
  | asterisk => cases grammar <;> decide
  | @origin path query hslash hparts =>
      have hpath : path ≠ "" := by
        rintro rfl
        cases hslash
      change (Utf8.octets (withQuery path query)).length ≤ maxLength at hlength
      rw [wire, parse_of_slash (by rw [head?_withQuery hpath, hslash]) hlength, hparts.read]
      rfl
  | authority hhost => rwa [wire, octets_of_parse_authority h]
  | @absolute spelled host scheme path query hspelled hscheme hhost hslash hparts =>
      have hroot : (Utf8.octets (if path = "" then "/" else path)).head? = some slash := by
        split
        · decide
        next hpath => exact hslash.resolve_left hpath
      rw [octets_wire_absolute, octets_asciiText hhost.ascii] at hlength ⊢
      rw [parse_absolute hscheme.isScheme hhost (.inr hroot) hparts.rooted hlength,
        Utf8.octets_inj.mp hscheme.isScheme.octets_asciiText]
      rfl

/-! ## Length -/

/-- Whether a target leaves out the path behind its authority. -/
def isRootless : Target → Bool
  | .absolute _ _ path _ => path = ""
  | _ => false

/-- What is written is as long as what was read before the fragment, but for the root. -/
theorem length_wire {octets : Octets} {target : Target} (h : parse octets grammar = .ok target) :
    (Utf8.octets target.wire).length =
      (beforeFragment octets).length + if target.isRootless then 1 else 0 := by
  have hspells := spells_of_parse h
  generalize beforeFragment octets = shown at hspells
  cases hspells with
  | asterisk => rfl
  | origin => rfl
  | authority hhost =>
      rw [wire, octets_asciiText hhost.ascii]
      rfl
  | @absolute spelled host scheme path query hspelled hscheme hhost hslash hparts =>
      have hsame : (Utf8.octets scheme).length = spelled.length := by
        rw [← List.length_map (f := lower), hscheme.lower, List.length_map]
      rw [octets_wire_absolute, octets_asciiText hhost.ascii]
      simp only [List.length_append, hsame, isRootless, decide_eq_true_eq]
      by_cases hpath : path = ""
      · subst hpath
        have hroot : (Utf8.octets (withQuery "/" query)).length =
            (Utf8.octets (withQuery "" query)).length + 1 := by
          cases query with
          | none => rfl
          | some text =>
              have hone : (Utf8.octets "/").length = (Utf8.octets "").length + 1 := rfl
              simp only [octets_withQuery_some, List.length_append, hone]
              omega
        rw [if_pos rfl, if_pos rfl, hroot]
        omega
      · rw [if_neg hpath, if_neg hpath]
        omega

theorem length_beforeFragment_le {octets : Octets} {target : Target}
    (h : parse octets grammar = .ok target) : (beforeFragment octets).length ≤ maxLength :=
  Nat.le_trans (List.takeWhile_sublist _).length_le (length_of_parse h)

theorem length_wire_le {octets : Octets} {target : Target} (h : parse octets grammar = .ok target) :
    (Utf8.octets target.wire).length ≤ maxLength + 1 := by
  have hshown := length_beforeFragment_le h
  rw [length_wire h]
  split <;> omega

/-- Only the root that is added can make what is written too long. -/
theorem length_wire_le_iff {octets : Octets} {target : Target}
    (h : parse octets grammar = .ok target) :
    (Utf8.octets target.wire).length ≤ maxLength ↔
      ¬ (target.isRootless = true ∧ (beforeFragment octets).length = maxLength) := by
  have hshown := length_beforeFragment_le h
  rw [length_wire h]
  constructor
  · rintro hfits ⟨hrootless, hfull⟩
    rw [if_pos hrootless] at hfits
    omega
  · intro hfits
    split
    next hrootless =>
      have hne : (beforeFragment octets).length ≠ maxLength := fun hfull =>
        hfits ⟨hrootless, hfull⟩
      omega
    · omega

/-! ## Octets of the wire form -/

theorem isTargetOctet_of_visible {octet : UInt8}
    (h : 0x21 ≤ octet.toNat ∧ octet.toNat ≤ 0x7E) :
    RequestHead.isTargetOctet octet = true := by
  simp only [RequestHead.isTargetOctet, UInt8.le_iff_toNat_le, ne_eq, ← UInt8.toNat_inj,
    UInt8.reduceToNat, Bool.and_eq_true, decide_eq_true_eq]
  omega

/-- An octet of a path may stand in a request line, but for the delete character where it is
admitted. -/
theorem isTargetOctet_of_isPathOctet {octet : UInt8} (h : isPathOctet grammar octet = true)
    (hdelete : octet = delete → grammar = .strict) : RequestHead.isTargetOctet octet = true := by
  rw [isPathOctet, admitsDelete_eq_false hdelete, Bool.or_false] at h
  simp only [RequestHead.isTargetOctet, UInt8.le_iff_toNat_le, ne_eq, ← UInt8.toNat_inj,
    UInt8.reduceToNat, Bool.or_eq_true, Bool.and_eq_true, decide_eq_true_eq] at h ⊢
  omega

theorem isTargetOctet_of_isQueryOctet {octet : UInt8} (h : isQueryOctet grammar octet = true)
    (hdelete : octet = delete → grammar = .strict) : RequestHead.isTargetOctet octet = true := by
  rw [isQueryOctet, admitsDelete_eq_false hdelete, Bool.or_false] at h
  simp only [RequestHead.isTargetOctet, UInt8.le_iff_toNat_le, ne_eq, ← UInt8.toNat_inj,
    UInt8.reduceToNat, Bool.or_eq_true, Bool.and_eq_true, decide_eq_true_eq] at h ⊢
  omega

theorem IsPathAndQuery.isTargetOctet {path : String} {query : Option String}
    (hparts : IsPathAndQuery grammar path query) :
    ∀ octet ∈ Utf8.octets (withQuery path query), (octet = delete → grammar = .strict) →
      RequestHead.isTargetOctet octet = true := by
  intro octet hmem hdelete
  cases query with
  | none => exact isTargetOctet_of_isPathOctet (hparts.path_octets octet hmem) hdelete
  | some text =>
      rw [octets_withQuery_some, List.mem_append, List.mem_cons] at hmem
      rcases hmem with hmem | rfl | hmem
      · exact isTargetOctet_of_isPathOctet (hparts.path_octets octet hmem) hdelete
      · decide
      · exact isTargetOctet_of_isQueryOctet (hparts.query_octets text rfl octet hmem) hdelete

/-- A target that was read may stand in a request line, but for the delete character where it is
admitted. -/
theorem isTargetOctet_wire {octets : Octets} {target : Target}
    (h : parse octets grammar = .ok target) :
    ∀ octet ∈ Utf8.octets target.wire, (octet = delete → grammar = .strict) →
      RequestHead.isTargetOctet octet = true := by
  have hspells := spells_of_parse h
  generalize beforeFragment octets = shown at hspells
  cases hspells with
  | asterisk =>
      have hmark : ∀ octet ∈ Utf8.octets asterisk.wire,
          RequestHead.isTargetOctet octet = true := by
        decide
      exact fun octet hmem _ => hmark octet hmem
  | origin hslash hparts => exact hparts.isTargetOctet
  | authority hhost =>
      intro octet hmem _
      rw [wire, octets_asciiText hhost.ascii] at hmem
      exact isTargetOctet_of_visible (hhost.visible octet hmem)
  | @absolute spelled host scheme path query hspelled hscheme hhost hslash hparts =>
      intro octet hmem hdelete
      rw [octets_wire_absolute, octets_asciiText hhost.ascii, List.mem_append, List.mem_append,
        List.mem_append] at hmem
      rcases hmem with (hmem | hmem) | hmem | hmem
      · have hvisible := visible_of_isSchemeOctet (hscheme.isScheme.octets octet hmem)
        exact isTargetOctet_of_visible hvisible
      · have hmark : ∀ octet ∈ schemeMark, RequestHead.isTargetOctet octet = true := by decide
        exact hmark octet hmem
      · exact isTargetOctet_of_visible (hhost.visible octet hmem)
      · exact hparts.rooted.isTargetOctet octet hmem hdelete

/-! ## The delete character -/

/-- Only the lenient grammar reads a target that is written with the delete character. -/
theorem grammar_of_delete_mem_wire {octets : Octets} {target : Target}
    (h : parse octets grammar = .ok target) (hmem : delete ∈ Utf8.octets target.wire) :
    grammar = .lenient := by
  cases grammar with
  | strict => exact absurd (isTargetOctet_wire h delete hmem fun _ => rfl) (by decide)
  | lenient => rfl

theorem delete_not_mem_of_isSchemeOctet {octets : Octets}
    (h : ∀ octet ∈ octets, isSchemeOctet octet = true) : delete ∉ octets :=
  fun hmem => absurd (h delete hmem) (by decide)

/-- What is written holds the delete character if it stood before the fragment. -/
theorem delete_mem_wire_iff {octets : Octets} {target : Target}
    (h : parse octets grammar = .ok target) :
    delete ∈ Utf8.octets target.wire ↔ delete ∈ beforeFragment octets := by
  have hspells := spells_of_parse h
  generalize beforeFragment octets = shown at hspells
  cases hspells with
  | asterisk => decide
  | origin => exact Iff.rfl
  | authority hhost => rw [wire, octets_asciiText hhost.ascii]
  | @absolute spelled host scheme path query hspelled hscheme hhost hslash hparts =>
      have hroot : delete ∈ Utf8.octets (withQuery (if path = "" then "/" else path) query) ↔
          delete ∈ Utf8.octets (withQuery path query) := by
        split
        next hpath =>
          subst hpath
          cases query with
          | none => decide
          | some text =>
              have hslash : delete ∉ Utf8.octets "/" := by decide
              have hnothing : delete ∉ Utf8.octets "" := by decide
              simp only [octets_withQuery_some, List.mem_append, hslash, hnothing]
        · exact Iff.rfl
      rw [octets_wire_absolute, octets_asciiText hhost.ascii]
      simp only [List.mem_append, delete_not_mem_of_isSchemeOctet hscheme.isScheme.octets,
        delete_not_mem_of_isSchemeOctet hspelled, false_or, hroot, or_assoc]

theorem readText_congr {allowed allowed' : UInt8 → Bool} {octets : Octets}
    (h : ∀ octet ∈ octets, allowed octet = allowed' octet) :
    readText allowed octets = readText allowed' octets := by
  have hall : octets.all allowed = octets.all allowed' := by
    rw [Bool.eq_iff_iff, List.all_eq_true, List.all_eq_true]
    exact forall₂_congr fun octet hmem => by rw [h octet hmem]
  rw [readText, readText, hall]

/-- The grammars differ in nothing but the delete character. -/
theorem readPathAndQuery_of_delete_not_mem {octets : Octets} (h : delete ∉ octets) :
    readPathAndQuery grammar octets = readPathAndQuery .strict octets := by
  have hne : ∀ octet ∈ beforeFragment octets, octet ≠ delete := by
    rintro octet hmem rfl
    exact h ((List.takeWhile_sublist _).subset hmem)
  have hpath :
      readText (isPathOctet grammar) ((beforeFragment octets).takeWhile (· ≠ questionMark)) =
        readText (isPathOctet .strict)
          ((beforeFragment octets).takeWhile (· ≠ questionMark)) := by
    refine readText_congr fun octet hmem => ?_
    have hdelete := hne octet ((List.takeWhile_sublist _).subset hmem)
    simp only [isPathOctet, admitsDelete_eq_false fun heq => absurd heq hdelete]
  rw [readPathAndQuery, readPathAndQuery, hpath]
  cases hrest : (beforeFragment octets).dropWhile (· ≠ questionMark) with
  | nil => rfl
  | cons mark later =>
      have hquery :
          readText (isQueryOctet grammar) later = readText (isQueryOctet .strict) later := by
        refine readText_congr fun octet hmem => ?_
        have hrest : octet ∈ (beforeFragment octets).dropWhile (· ≠ questionMark) := by
          rw [hrest]
          exact List.mem_cons_of_mem mark hmem
        have hdelete := hne octet ((List.dropWhile_sublist _).subset hrest)
        simp only [isQueryOctet, admitsDelete_eq_false fun heq => absurd heq hdelete]
      simp only [hquery]

theorem parseFull_of_delete_not_mem {octets : Octets} (h : delete ∉ octets) :
    parseFull grammar octets = parseFull .strict octets := by
  rw [parseFull, parseFull]
  cases hscheme : readScheme octets with
  | error fault => rfl
  | ok parts =>
      obtain ⟨scheme?, rest⟩ := parts
      cases scheme? with
      | none => rfl
      | some scheme =>
          obtain ⟨spelled, hoctets, -⟩ := spelled_of_readScheme hscheme
          cases hauthority : readAuthority rest with
          | error fault => simp only [hauthority]
          | ok parts =>
              obtain ⟨host, tail⟩ := parts
              have htail : delete ∉ tail := by
                intro hmem
                rw [hoctets, (spelled_of_readAuthority hauthority).2.1] at h
                exact h (List.mem_append_right _ (List.mem_append_right _ hmem))
              simp only [hauthority, readPathAndQuery_of_delete_not_mem htail]

/-- Octets without the delete character are read alike by each grammar. -/
theorem parse_of_delete_not_mem (grammar : Grammar) {octets : Octets} (h : delete ∉ octets) :
    parse octets grammar = parse octets := by
  rw [parse.eq_def, parse.eq_def octets .strict, parseFull_of_delete_not_mem h,
    readPathAndQuery_of_delete_not_mem h]

example : parse [slash, delete] = .error .badCharacter ∧
    parse [slash, delete] .lenient = .ok (.origin "/\x7F" none) :=
  ⟨by decide, by decide +kernel⟩

theorem wire_ne_empty {octets : Octets} {target : Target} (h : parse octets grammar = .ok target) :
    target.wire ≠ "" := by
  intro hempty
  have hnil : Utf8.octets target.wire = [] := by
    rw [hempty]
    rfl
  have hspells := spells_of_parse h
  generalize beforeFragment octets = shown at hspells
  cases hspells with
  | asterisk => exact absurd hnil (by decide)
  | @origin path query hslash hparts =>
      have hpath : path ≠ "" := by
        rintro rfl
        cases hslash
      rw [← head?_withQuery hpath query] at hslash
      rw [wire] at hnil
      rw [hnil] at hslash
      cases hslash
  | authority hhost =>
      rw [wire, octets_asciiText hhost.ascii] at hnil
      exact hhost.nonempty hnil
  | absolute =>
      rw [octets_wire_absolute] at hnil
      have hlength := congrArg List.length hnil
      simp [schemeMark] at hlength

end Beacon.Http.Target
