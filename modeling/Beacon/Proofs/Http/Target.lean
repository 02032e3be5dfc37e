import Beacon.Http.Target
import Beacon.Proofs.Text.Utf8
import Mathlib.Data.List.TakeWhile

/-!
# The grammar of request targets

The four forms in which a target is spelled, and the fact that reading a target finds the form
that it is spelled in. The fragment belongs to no form. What an authority may be made of is left
to the scan of it.
-/

namespace Beacon.Http

/-! ## ASCII texts -/

theorem octets_asciiText {octets : Octets} (h : ∀ octet ∈ octets, octet.toNat ≤ 0x7F) :
    Utf8.octets (asciiText octets) = octets := by
  rw [asciiText, Utf8.octets_ofList]
  induction octets with
  | nil => rfl
  | cons octet rest ih =>
      have hvalue : (Char.ofNat octet.toNat).toNat = octet.toNat :=
        Utf8.val_toNat_ofNat (.inl (by have := h octet (by simp); omega))
      have hoctet : String.utf8EncodeChar (Char.ofNat octet.toNat) = [octet] := by
        rw [Utf8.utf8EncodeChar_of_ascii (by rw [hvalue]; exact h octet (by simp)), hvalue,
          UInt8.ofNat_toNat]
      rw [List.map_cons, Utf8.encode_cons, hoctet, ih fun later hmem => h later (by simp [hmem])]
      rfl

theorem octets_schemeMark : Utf8.octets "://" = Target.schemeMark := by
  decide

namespace Target

variable {grammar : Grammar}

/-! ## Kinds of octets -/

theorem visible_of_isSchemeOctet {octet : UInt8} (h : isSchemeOctet octet = true) :
    0x21 ≤ octet.toNat ∧ octet.toNat ≤ 0x7E := by
  simp only [isSchemeOctet, UInt8.le_iff_toNat_le, ← UInt8.toNat_inj, UInt8.reduceToNat,
    List.contains_cons, List.contains_nil, Bool.or_eq_true, Bool.and_eq_true, decide_eq_true_eq,
    beq_iff_eq, Bool.or_false] at h
  omega

theorem toNat_le_of_isSchemeOctet {octet : UInt8} (h : isSchemeOctet octet = true) :
    octet.toNat ≤ 0x7F :=
  (visible_of_isSchemeOctet h).2.trans (by decide)

theorem ne_colon_of_isSchemeOctet {octet : UInt8} (h : isSchemeOctet octet = true) :
    octet ≠ 0x3A := by
  rintro rfl
  revert h
  decide

theorem endsAuthority_eq_false_iff {octet : UInt8} :
    endsAuthority octet = false ↔ octet ≠ slash ∧ octet ≠ questionMark ∧ octet ≠ numberSign := by
  simp [endsAuthority, and_assoc]

theorem ne_numberSign_of_isSchemeOctet {octet : UInt8} (h : isSchemeOctet octet = true) :
    octet ≠ numberSign := by
  rintro rfl
  revert h
  decide

theorem ne_slash_of_isSchemeOctet {octet : UInt8} (h : isSchemeOctet octet = true) :
    octet ≠ slash := by
  rintro rfl
  revert h
  decide

theorem admitsDelete_eq_false {octet : UInt8} (h : octet = delete → grammar = .strict) :
    grammar.admitsDelete octet = false := by
  cases grammar with
  | strict => rfl
  | lenient => exact decide_eq_false fun hdelete => nomatch h hdelete

theorem ne_of_isPathOctet {octet : UInt8} (h : isPathOctet grammar octet = true) :
    octet ≠ questionMark ∧ octet ≠ numberSign := by
  constructor
  · rintro rfl
    revert h
    cases grammar <;> decide
  · rintro rfl
    revert h
    cases grammar <;> decide

theorem ne_numberSign_of_isQueryOctet {octet : UInt8} (h : isQueryOctet grammar octet = true) :
    octet ≠ numberSign := by
  rintro rfl
  revert h
  cases grammar <;> decide

/-! ## Forms -/

/-- Octets that an authority can be made of. -/
structure IsHost (host : Octets) : Prop where
  nonempty : host ≠ []
  inside : ∀ octet ∈ host, endsAuthority octet = false
  checked : checkAuthority host = .ok ()

/-- Octets that a scheme is kept as. Those of the two usual schemes are kept in lower case. -/
structure IsScheme (scheme : Octets) : Prop where
  octets : ∀ octet ∈ scheme, isSchemeOctet octet = true
  length : scheme.length ≤ maxSchemeLength
  usual : ∀ usual ∈ [httpScheme, httpsScheme], scheme.map lower = usual → scheme = usual

/-- A scheme is kept as it is spelled, or in lower case. -/
structure KeptAs (spelled : Octets) (scheme : String) : Prop where
  lower : (Utf8.octets scheme).map lower = spelled.map lower
  isScheme : IsScheme (Utf8.octets scheme)

/-- A path and a query whose octets are of their kinds. -/
structure IsPathAndQuery (grammar : Grammar) (path : String) (query : Option String) : Prop where
  path_octets : ∀ octet ∈ Utf8.octets path, isPathOctet grammar octet = true
  query_octets : ∀ text ∈ query, ∀ octet ∈ Utf8.octets text, isQueryOctet grammar octet = true

/-- The forms of targets, by the octets before the fragment. -/
inductive Spells (grammar : Grammar) : Octets → Target → Prop where
  | asterisk : Spells grammar [0x2A] .asterisk
  | origin {path : String} {query : Option String}
      (hslash : (Utf8.octets path).head? = some slash)
      (hparts : IsPathAndQuery grammar path query) :
      Spells grammar (Utf8.octets (withQuery path query)) (.origin path query)
  | authority {host : Octets} (hhost : IsHost host) :
      Spells grammar host (.authority (asciiText host))
  | absolute {spelled host : Octets} {scheme path : String} {query : Option String}
      (hspelled : ∀ octet ∈ spelled, isSchemeOctet octet = true)
      (hscheme : KeptAs spelled scheme) (hhost : IsHost host)
      (hslash : path = "" ∨ (Utf8.octets path).head? = some slash)
      (hparts : IsPathAndQuery grammar path query) :
      Spells grammar (spelled ++ schemeMark ++ host ++ Utf8.octets (withQuery path query))
        (.absolute scheme (asciiText host) path query)

/-! ## Path and query -/

theorem octets_of_readText {allowed : UInt8 → Bool} {octets : Octets} {text : String}
    (h : readText allowed octets = .ok text) :
    Utf8.octets text = octets ∧ ∀ octet ∈ octets, allowed octet = true := by
  unfold readText at h
  split at h
  · next hall =>
      split at h
      · next found hdecode =>
          cases h
          exact ⟨by rw [Utf8.octets_ofList, Utf8.encode_of_decode? hdecode],
            List.all_eq_true.mp hall⟩
      · cases h
  · cases h

theorem octets_ne_nil {text : String} (h : text ≠ "") : Utf8.octets text ≠ [] := by
  intro hnil
  apply h
  rw [← Utf8.octets_inj, hnil]
  rfl

theorem octets_withQuery_some (path query : String) :
    Utf8.octets (withQuery path (some query)) =
      Utf8.octets path ++ questionMark :: Utf8.octets query := by
  rw [withQuery, Utf8.octets_append, Utf8.octets_append, List.append_assoc]
  rfl

/-- What is read as path and query is spelled so before the fragment. -/
theorem spelled_of_readPathAndQuery {octets : Octets} {path : String} {query : Option String}
    (h : readPathAndQuery grammar octets = .ok (path, query)) :
    beforeFragment octets = Utf8.octets (withQuery path query) ∧
      IsPathAndQuery grammar path query := by
  have hsplit := List.takeWhile_append_dropWhile (p := (· ≠ questionMark))
    (l := beforeFragment octets)
  simp only [readPathAndQuery] at h
  cases hpath : readText (isPathOctet grammar)
      ((beforeFragment octets).takeWhile (· ≠ questionMark)) with
  | error fault =>
      rw [hpath] at h
      cases h
  | ok readPath =>
      obtain ⟨hoctets, hallowed⟩ := octets_of_readText hpath
      rw [hpath] at h
      cases hrest : (beforeFragment octets).dropWhile (· ≠ questionMark) with
      | nil =>
          rw [hrest] at h hsplit
          cases h
          refine ⟨?_, ⟨?_, ?_⟩⟩
          · rw [withQuery, hoctets, ← List.append_nil (List.takeWhile _ _), hsplit]
          · rw [hoctets]
            exact hallowed
          · rintro text ⟨⟩
      | cons mark later =>
          rw [hrest] at h hsplit
          obtain rfl : mark = questionMark := by
            have hhead := List.head?_dropWhile_not (· ≠ questionMark) (beforeFragment octets)
            rw [hrest] at hhead
            simpa using hhead
          cases hquery : readText (isQueryOctet grammar) later with
          | error fault =>
              simp only [hquery] at h
              cases h
          | ok text =>
              simp only [hquery] at h
              cases h
              obtain ⟨hlater, hquery⟩ := octets_of_readText hquery
              refine ⟨?_, ⟨?_, ?_⟩⟩
              · rw [octets_withQuery_some, hoctets, hlater, hsplit]
              · rw [hoctets]
                exact hallowed
              · rintro text ⟨⟩
                rw [hlater]
                exact hquery

/-! ## Authority -/

/-- The octets that a scan goes on after are visible. -/
theorem toNat_of_next {scan after : AuthorityScan} {octet : UInt8}
    (h : scan.next octet = .ok after) : 0x21 ≤ octet.toNat ∧ octet.toNat ≤ 0x7E := by
  unfold AuthorityScan.next at h
  split at h
  · next heq => simp [heq]
  split at h
  · next heq => simp [heq]
  split at h
  · next heq => simp [heq]
  split at h
  · next heq => simp [heq]
  split at h
  · next heq => simp [heq]
  split at h
  · next hplain =>
      simp only [isAuthorityOctet, UInt8.le_iff_toNat_le, ← UInt8.toNat_inj, UInt8.reduceToNat,
        List.contains_cons, List.contains_nil, Bool.or_eq_true, Bool.and_eq_true,
        decide_eq_true_eq, beq_iff_eq, Bool.or_false] at hplain
      omega
  · cases h

theorem toNat_of_foldlM {octets : Octets} {scan after : AuthorityScan}
    (h : octets.foldlM AuthorityScan.next scan = .ok after) :
    ∀ octet ∈ octets, 0x21 ≤ octet.toNat ∧ octet.toNat ≤ 0x7E := by
  induction octets generalizing scan with
  | nil => simp
  | cons first rest ih =>
      rw [List.foldlM_cons] at h
      cases hfirst : scan.next first with
      | error fault =>
          rw [hfirst] at h
          cases h
      | ok later =>
          rw [hfirst] at h
          intro octet hmem
          obtain rfl | hmem := List.mem_cons.mp hmem
          · exact toNat_of_next hfirst
          · exact ih h octet hmem

theorem IsHost.visible {host : Octets} (hhost : IsHost host) :
    ∀ octet ∈ host, 0x21 ≤ octet.toNat ∧ octet.toNat ≤ 0x7E := by
  have hchecked := hhost.checked
  unfold checkAuthority at hchecked
  split at hchecked
  · cases hchecked
  · next hfold => exact toNat_of_foldlM hfold

theorem IsHost.ascii {host : Octets} (hhost : IsHost host) :
    ∀ octet ∈ host, octet.toNat ≤ 0x7F := fun octet hmem =>
  Nat.le_succ_of_le (hhost.visible octet hmem).2

/-- What is read as an authority stands at the front, and what ends it follows. -/
theorem spelled_of_readAuthority {octets host tail : Octets}
    (h : readAuthority octets = .ok (host, tail)) :
    octets ≠ [] ∧ octets = host ++ tail ∧ (host ≠ [] → IsHost host) ∧
      ∀ octet ∈ tail.head?, endsAuthority octet = true := by
  unfold readAuthority at h
  split at h
  · cases h
  · next hempty =>
      simp only at h
      split at h
      · cases h
      · next hcheck =>
          cases h
          refine ⟨by simpa using hempty, List.takeWhile_append_dropWhile.symm, fun hhost => ?_, ?_⟩
          · refine ⟨hhost, fun octet hmem => ?_, hcheck⟩
            simpa using List.mem_takeWhile_imp hmem
          · intro octet hhead
            have hnot := List.head?_dropWhile_not (fun octet => !endsAuthority octet) octets
            rw [hhead] at hnot
            simpa using hnot

/-! ## Scheme -/

theorem eq_of_lower_eq {octet mark : UInt8} (hmark : mark.toNat ≤ 0x40)
    (h : lower octet = mark) : octet = mark := by
  unfold lower at h
  split at h
  · next hletter =>
      simp only [UInt8.le_iff_toNat_le, UInt8.reduceToNat] at hletter
      have hsum := congrArg UInt8.toNat h
      rw [UInt8.toNat_add] at hsum
      change (octet.toNat + 0x20) % 256 = mark.toNat at hsum
      omega
  · exact h

theorem isSchemeOctet_of_lower {octet : UInt8} (h : isSchemeOctet (lower octet) = true) :
    isSchemeOctet octet = true := by
  unfold lower at h
  split at h
  · next hletter => simp [isSchemeOctet, hletter]
  · exact h

/-- A usual scheme is spelled in any case before its mark. -/
theorem spelled_of_startsWithScheme {scheme octets : Octets}
    (h : startsWithScheme scheme octets = true) :
    ∃ spelled, octets = spelled ++ schemeMark ++ octets.drop (scheme.length + 3) ∧
      spelled.map lower = scheme := by
  have hmap := eq_of_beq h
  have hlength := congrArg List.length hmap
  rw [List.length_map, List.length_append] at hlength
  have hspelled : (octets.take scheme.length).map lower = scheme := by
    have htake := congrArg (List.take scheme.length) hmap
    rwa [← List.map_take, List.take_take, Nat.min_eq_left (by omega), List.take_left] at htake
  have hmark : (octets.drop scheme.length).take 3 = schemeMark := by
    have hdrop := congrArg (List.drop scheme.length) hmap
    rw [← List.map_drop, List.drop_take, Nat.add_sub_cancel_left, List.drop_left] at hdrop
    have hthree : ((octets.drop scheme.length).take 3).length = 3 := by
      rw [← List.length_map (f := lower), hdrop]
      rfl
    match hfront : (octets.drop scheme.length).take 3, hthree with
    | [a, b, c], _ =>
        rw [hfront] at hdrop
        simp only [List.map_cons, List.map_nil, schemeMark, List.cons.injEq] at hdrop
        rw [eq_of_lower_eq (by decide) hdrop.1, eq_of_lower_eq (by decide) hdrop.2.1,
          eq_of_lower_eq (by decide) hdrop.2.2.1]
        rfl
  refine ⟨octets.take scheme.length, ?_, hspelled⟩
  rw [← hmark, List.append_assoc, ← List.drop_drop, List.take_append_drop,
    List.take_append_drop]

/-- The octets of the usual schemes may stand in a scheme, also in the other case. -/
theorem isSchemeOctet_of_usual {scheme spelled : Octets} (h : spelled.map lower = scheme)
    (husual : ∀ octet ∈ scheme, isSchemeOctet octet = true) :
    ∀ octet ∈ spelled, isSchemeOctet octet = true := by
  intro octet hmem
  apply isSchemeOctet_of_lower
  apply husual
  rw [← h]
  exact List.mem_map_of_mem hmem

/-- What is spelled as a scheme in either case, and its mark after it, starts with the scheme. -/
theorem startsWithScheme_of_lower {scheme spelled : Octets} (h : spelled.map lower = scheme)
    (rest : Octets) : startsWithScheme scheme (spelled ++ schemeMark ++ rest) = true := by
  have hlength : (spelled ++ schemeMark).length = scheme.length + 3 := by
    rw [← h, List.length_append, List.length_map]
    rfl
  have hmark : schemeMark.map lower = schemeMark := by decide
  rw [startsWithScheme, List.take_left' hlength, List.map_append, h, hmark, beq_self_eq_true]

theorem IsScheme.octets_asciiText {scheme : Octets} (h : IsScheme scheme) :
    Utf8.octets (asciiText scheme) = scheme :=
  Http.octets_asciiText fun octet hmem => toNat_le_of_isSchemeOctet (h.octets octet hmem)

/-- The usual schemes are kept in lower case. -/
theorem keptAs_usual {usual spelled : Octets} (h : usual ∈ [httpScheme, httpsScheme])
    (hlower : spelled.map lower = usual) : KeptAs spelled (asciiText usual) := by
  have hall : ∀ usual ∈ [httpScheme, httpsScheme],
      (∀ octet ∈ usual, isSchemeOctet octet = true) ∧ usual.length ≤ maxSchemeLength ∧
        usual.map lower = usual := by
    decide
  obtain ⟨hoctets, hlength, hfixed⟩ := hall usual h
  have husual : IsScheme usual := by
    refine ⟨hoctets, hlength, fun other _ hother => ?_⟩
    rw [← hother, hfixed]
  constructor
  · rw [husual.octets_asciiText, hfixed, hlower]
  · rw [husual.octets_asciiText]
    exact husual

/-- A scheme that is read is spelled, up to case, before its mark. -/
theorem spelled_of_readScheme {octets scheme rest : Octets}
    (h : readScheme octets = .ok (some scheme, rest)) :
    ∃ spelled, octets = spelled ++ schemeMark ++ rest ∧
      (∀ octet ∈ spelled, isSchemeOctet octet = true) ∧ KeptAs spelled (asciiText scheme) := by
  unfold readScheme at h
  split at h
  · next hhttp =>
      cases h
      obtain ⟨spelled, hoctets, hlower⟩ := spelled_of_startsWithScheme hhttp
      exact ⟨spelled, hoctets, isSchemeOctet_of_usual hlower (by decide),
        keptAs_usual (by decide) hlower⟩
  split at h
  · next hhttps =>
      cases h
      obtain ⟨spelled, hoctets, hlower⟩ := spelled_of_startsWithScheme hhttps
      exact ⟨spelled, hoctets, isSchemeOctet_of_usual hlower (by decide),
        keptAs_usual (by decide) hlower⟩
  next hhttp hhttps =>
    simp only at h
    split at h
    · next hmark =>
        split at h
        · next hlength =>
            cases h
            have hall : ∀ octet ∈ octets.takeWhile isSchemeOctet, isSchemeOctet octet = true :=
              fun octet hmem => List.mem_takeWhile_imp hmem
            have hsplit := List.takeWhile_append_dropWhile (p := isSchemeOctet) (l := octets)
            have hrest := congrArg (List.drop (octets.takeWhile isSchemeOctet).length) hsplit
            rw [List.drop_left] at hrest
            have hspelled : octets = octets.takeWhile isSchemeOctet ++ schemeMark ++
                (octets.drop (octets.takeWhile isSchemeOctet).length).drop 3 := by
              rw [← hmark.2, List.append_assoc, List.take_append_drop, ← hrest, hsplit]
            -- One of the usual schemes would have been found before.
            have husual : ∀ usual ∈ [httpScheme, httpsScheme],
                (octets.takeWhile isSchemeOctet).map lower ≠ usual := by
              intro usual hmem hlower
              have hstarts := startsWithScheme_of_lower hlower
                ((octets.drop (octets.takeWhile isSchemeOctet).length).drop 3)
              rw [← hspelled] at hstarts
              simp only [List.mem_cons, List.not_mem_nil, or_false] at hmem
              rcases hmem with rfl | rfl
              · exact hhttp hstarts
              · exact hhttps hstarts
            have hscheme : IsScheme (octets.takeWhile isSchemeOctet) :=
              ⟨hall, hlength, fun usual hmem hlower => absurd hlower (husual usual hmem)⟩
            refine ⟨octets.takeWhile isSchemeOctet, hspelled, hall, ?_, ?_⟩
            · rw [hscheme.octets_asciiText]
            · rw [hscheme.octets_asciiText]
              exact hscheme
        · cases h
    · cases h

theorem eq_of_readScheme_none {octets rest : Octets} (h : readScheme octets = .ok (none, rest)) :
    rest = octets := by
  unfold readScheme at h
  split at h
  · cases h
  split at h
  · cases h
  simp only at h
  split at h
  · split at h <;> cases h
  · cases h
    rfl

/-! ## Whole targets -/

theorem beforeFragment_append {front : Octets} (h : ∀ octet ∈ front, octet ≠ numberSign)
    (rest : Octets) : beforeFragment (front ++ rest) = front ++ beforeFragment rest := by
  unfold beforeFragment
  rw [List.takeWhile_append_of_pos]
  intro octet hmem
  simpa using h octet hmem

theorem IsHost.ne_numberSign {host : Octets} (hhost : IsHost host) :
    ∀ octet ∈ host, octet ≠ numberSign := fun octet hmem =>
  (endsAuthority_eq_false_iff.mp (hhost.inside octet hmem)).2.2

/-- An authority alone has no fragment. -/
theorem IsHost.spells {host : Octets} (hhost : IsHost host) :
    Spells grammar (beforeFragment host) (.authority (asciiText host)) := by
  have hshown := beforeFragment_append hhost.ne_numberSign []
  rw [List.append_nil] at hshown
  rw [hshown]
  change Spells grammar (host ++ []) _
  rw [List.append_nil]
  exact .authority hhost

theorem schemeMark_ne_numberSign : ∀ octet ∈ schemeMark, octet ≠ numberSign := by
  decide

/-- A path that is not empty starts what it stands in. -/
theorem head?_withQuery {path : String} (h : path ≠ "") (query : Option String) :
    (Utf8.octets (withQuery path query)).head? = (Utf8.octets path).head? := by
  cases query with
  | none => rfl
  | some text =>
      rw [octets_withQuery_some]
      cases hpath : Utf8.octets path with
      | nil => exact absurd hpath (octets_ne_nil h)
      | cons first rest => rfl

/-- What follows an authority ends it. -/
theorem endsAuthority_head? {path : String} {query : Option String}
    (hslash : path = "" ∨ (Utf8.octets path).head? = some slash) :
    ∀ octet ∈ (Utf8.octets (withQuery path query)).head?, endsAuthority octet = true := by
  by_cases hpath : path = ""
  · subst hpath
    cases query with
    | none => rintro octet ⟨⟩
    | some text =>
        rw [octets_withQuery_some]
        rintro octet ⟨⟩
        rfl
  · rw [head?_withQuery hpath, hslash.resolve_left hpath]
    rintro octet ⟨⟩
    rfl

/-- A path behind an authority is empty or starts with a slash, for a query or a fragment would
not be part of it. -/
theorem IsPathAndQuery.starts {path : String} {query : Option String}
    (hparts : IsPathAndQuery grammar path query)
    (h : ∀ octet ∈ (Utf8.octets (withQuery path query)).head?,
      octet = slash ∨ octet = questionMark) :
    path = "" ∨ (Utf8.octets path).head? = some slash := by
  by_cases hpath : path = ""
  · exact .inl hpath
  · rw [head?_withQuery hpath] at h
    cases hhead : (Utf8.octets path).head? with
    | none => exact absurd (List.head?_eq_none_iff.mp hhead) (octets_ne_nil hpath)
    | some octet =>
        obtain rfl | rfl := h octet hhead
        · exact .inr rfl
        · have hplain := hparts.path_octets questionMark (List.mem_of_mem_head? hhead)
          exact absurd rfl (ne_of_isPathOctet hplain).1

/-- The first octet before a fragment. -/
theorem head?_beforeFragment {octets : Octets} {octet : UInt8}
    (h : octet ∈ (beforeFragment octets).head?) :
    octet ∈ octets.head? ∧ octet ≠ numberSign := by
  cases octets with
  | nil => cases h
  | cons first rest =>
      rw [beforeFragment, List.takeWhile_cons] at h
      split at h
      · next hfirst =>
          cases h
          exact ⟨rfl, by simpa using hfirst⟩
      · cases h

theorem spells_of_parseFull {octets : Octets} {target : Target}
    (h : parseFull grammar octets = .ok target) :
    Spells grammar (beforeFragment octets) target := by
  unfold parseFull at h
  split at h
  · cases h
  next scheme? rest hscheme =>
    split at h
    · cases h
    next host tail hauthority =>
      obtain ⟨hrest, hsplit, hhost, htail⟩ := spelled_of_readAuthority hauthority
      split at h
      · obtain rfl := eq_of_readScheme_none hscheme
        split at h
        · next hempty =>
            cases h
            obtain rfl := List.isEmpty_iff.mp hempty
            rw [List.append_nil] at hsplit
            subst hsplit
            exact (hhost hrest).spells
        · cases h
      · next scheme =>
          obtain ⟨spelled, hoctets, hspelled, hcase⟩ := spelled_of_readScheme hscheme
          split at h
          · cases h
          next hnonempty =>
            cases hparts : readPathAndQuery grammar tail with
            | error fault =>
                rw [hparts] at h
                cases h
            | ok parts =>
                obtain ⟨path, query⟩ := parts
                rw [hparts] at h
                cases h
                obtain ⟨hshown, hparts⟩ := spelled_of_readPathAndQuery hparts
                have hhost := hhost (by simpa using hnonempty)
                have hfront : ∀ octet ∈ spelled ++ schemeMark ++ host, octet ≠ numberSign := by
                  intro octet hmem
                  obtain hmem | hmem := List.mem_append.mp hmem
                  · obtain hmem | hmem := List.mem_append.mp hmem
                    · exact ne_numberSign_of_isSchemeOctet (hspelled octet hmem)
                    · exact schemeMark_ne_numberSign octet hmem
                  · exact hhost.ne_numberSign octet hmem
                rw [hoctets, hsplit, ← List.append_assoc, beforeFragment_append hfront, hshown]
                refine .absolute hspelled hcase hhost (hparts.starts fun octet hhead => ?_) hparts
                rw [← hshown] at hhead
                obtain ⟨hhead, hmark⟩ := head?_beforeFragment hhead
                have hends := htail octet hhead
                simp only [endsAuthority, Bool.or_eq_true, decide_eq_true_eq] at hends
                obtain hends | hends := hends
                · exact hends
                · exact absurd hends hmark

theorem spells_of_parseSingle {octet : UInt8} {target : Target}
    (h : parseSingle octet = .ok target) : Spells grammar (beforeFragment [octet]) target := by
  unfold parseSingle at h
  split at h
  · cases h
  next host tail hauthority =>
    obtain ⟨hrest, hsplit, hhost, -⟩ := spelled_of_readAuthority hauthority
    split at h
    · next hempty =>
        cases h
        obtain rfl := List.isEmpty_iff.mp hempty
        rw [List.append_nil] at hsplit
        subst hsplit
        exact (hhost hrest).spells
    · cases h

/-- A target that is read is spelled in its form before the fragment. -/
theorem spells_of_parse {octets : Octets} {target : Target}
    (h : parse octets grammar = .ok target) :
    Spells grammar (beforeFragment octets) target := by
  unfold parse at h
  split at h
  · cases h
  split at h
  · cases h
  · next octet =>
      split at h
      · next hslash =>
          cases h
          subst hslash
          have hslash : (Utf8.octets "/").head? = some slash := by decide
          have hparts : IsPathAndQuery grammar "/" none :=
            ⟨by cases grammar <;> decide, by rintro text ⟨⟩⟩
          exact .origin hslash hparts
      split at h
      · next hasterisk =>
          cases h
          subst hasterisk
          exact .asterisk
      · exact spells_of_parseSingle h
  · next first rest _ _ =>
      split at h
      · next hslash =>
          cases hparts : readPathAndQuery grammar (first :: rest) with
          | error fault =>
              rw [hparts] at h
              cases h
          | ok parts =>
              obtain ⟨path, query⟩ := parts
              rw [hparts] at h
              cases h
              obtain ⟨hshown, hparts⟩ := spelled_of_readPathAndQuery hparts
              have hhead : (Utf8.octets (withQuery path query)).head? = some slash := by
                rw [← hshown, beforeFragment, List.takeWhile_cons, hslash]
                rfl
              have hpath : path ≠ "" := by
                rintro rfl
                cases query with
                | none => cases hhead
                | some text =>
                    rw [octets_withQuery_some] at hhead
                    cases hhead
              rw [head?_withQuery hpath] at hhead
              rw [hshown]
              exact .origin hhead hparts
      · exact spells_of_parseFull h

/-! ## Authorities alone -/

theorem octets_of_readAuthority_nil {octets host : Octets}
    (h : readAuthority octets = .ok (host, [])) : Utf8.octets (asciiText host) = octets := by
  obtain ⟨hnonempty, hsplit, hhost, -⟩ := spelled_of_readAuthority h
  rw [List.append_nil] at hsplit
  subst hsplit
  exact octets_asciiText (hhost hnonempty).ascii

/-- An authority alone stands for itself, and nothing follows it. -/
theorem octets_of_parseFull_authority {octets : Octets} {host : String}
    (h : parseFull grammar octets = .ok (.authority host)) : Utf8.octets host = octets := by
  unfold parseFull at h
  split at h
  · cases h
  next scheme? rest hscheme =>
    split at h
    · cases h
    next front tail hauthority =>
      split at h
      · split at h
        · next hempty =>
            cases h
            rw [List.isEmpty_iff.mp hempty] at hauthority
            rw [octets_of_readAuthority_nil hauthority]
            exact eq_of_readScheme_none hscheme
        · cases h
      · split at h
        · cases h
        · cases hparts : readPathAndQuery grammar tail with
          | error fault =>
              rw [hparts] at h
              cases h
          | ok parts =>
              rw [hparts] at h
              cases h

theorem octets_of_parse_authority {octets : Octets} {host : String}
    (h : parse octets grammar = .ok (.authority host)) : Utf8.octets host = octets := by
  unfold parse at h
  split at h
  · cases h
  split at h
  · cases h
  · split at h
    · cases h
    split at h
    · cases h
    unfold parseSingle at h
    split at h
    · cases h
    next front tail hauthority =>
      split at h
      · next hempty =>
          cases h
          rw [List.isEmpty_iff.mp hempty] at hauthority
          exact octets_of_readAuthority_nil hauthority
      · cases h
  · next first rest _ _ =>
      split at h
      · cases hparts : readPathAndQuery grammar (first :: rest) with
        | error fault =>
            rw [hparts] at h
            cases h
        | ok parts =>
            rw [hparts] at h
            cases h
      · exact octets_of_parseFull_authority h

/-- The asterisk is no authority, although an authority could be made of it. -/
theorem ne_asterisk_of_parse_authority {octets : Octets} {host : String}
    (h : parse octets grammar = .ok (.authority host)) : host ≠ "*" := by
  rintro rfl
  have hoctets := octets_of_parse_authority h
  subst hoctets
  have hparse : parse (Utf8.octets "*") grammar = .ok .asterisk := by cases grammar <;> decide
  rw [hparse] at h
  cases h

end Target

end Beacon.Http
