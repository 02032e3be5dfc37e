import Beacon.Proofs.Http.Method
import Beacon.Proofs.Http.Target
import Beacon.Proofs.Text.Decimal
import Beacon.Service

/-!
# The routing law

A service answers a GET for a target that spells the path of a route, by itself or behind a scheme
and an authority, and nothing else. The law is stated on the texts that a request is built from.
-/

namespace Beacon

open Http

variable {grammar : Target.Grammar}

/-! ## What a target asks for -/

def withoutFragment (target : String) : String :=
  String.ofList (target.toList.takeWhile (· ≠ '#'))

/-- A text that holds nothing that would end a scheme. -/
def IsSchemeText (text : String) : Prop :=
  ∀ char ∈ text.toList, char ≠ ':' ∧ char ≠ '/' ∧ char ≠ '?' ∧ char ≠ '#'

/-- A text that holds something, and nothing that would end an authority. -/
def IsAuthorityText (text : String) : Prop :=
  text ≠ "" ∧ ∀ char ∈ text.toList, char ≠ '/' ∧ char ≠ '?' ∧ char ≠ '#'

instance (text : String) : Decidable (IsSchemeText text) :=
  inferInstanceAs (Decidable (∀ char ∈ text.toList, _))

instance (text : String) : Decidable (IsAuthorityText text) :=
  inferInstanceAs (Decidable (_ ∧ ∀ char ∈ text.toList, _))

inductive AsksFor : String → Route → Prop where
  | path (route : Route) : AsksFor route.path route
  | absolute {scheme authority : String} (hscheme : IsSchemeText scheme)
      (hauthority : IsAuthorityText authority) (route : Route) :
      AsksFor (scheme ++ "://" ++ authority ++ route.path) route
  /-- Behind an authority the path of the root may be left out. -/
  | rootless {scheme authority : String} (hscheme : IsSchemeText scheme)
      (hauthority : IsAuthorityText authority) :
      AsksFor (scheme ++ "://" ++ authority) .info

theorem octets_withoutFragment (target : String) :
    Utf8.octets (withoutFragment target) = Target.beforeFragment (Utf8.octets target) := by
  rw [withoutFragment, Utf8.octets_ofList]
  exact (Utf8.takeWhile_encode '#' (by decide) target.toList).symm

/-! ## Texts and octets -/

theorem ne_of_mem_octets {text : String} (mark : Char) (hmark : mark.toNat ≤ 0x7F)
    (h : ∀ char ∈ text.toList, char ≠ mark) :
    ∀ octet ∈ Utf8.octets text, octet ≠ UInt8.ofNat mark.toNat := by
  rintro octet hmem rfl
  exact h mark ((Utf8.mem_encode_iff mark hmark text.toList).mp hmem) rfl

theorem ne_of_mem_text {text : String} {mark : Char} (hmark : mark.toNat ≤ 0x7F)
    (h : ∀ octet ∈ Utf8.octets text, octet ≠ UInt8.ofNat mark.toNat) :
    ∀ char ∈ text.toList, char ≠ mark := by
  rintro char hmem rfl
  exact h _ ((Utf8.mem_encode_iff char hmark text.toList).mpr hmem) rfl

/-- The octets of an authority's text do not end it. -/
theorem IsAuthorityText.inside {text : String} (h : IsAuthorityText text) :
    ∀ octet ∈ Utf8.octets text, Target.endsAuthority octet = false := by
  intro octet hmem
  rw [Target.endsAuthority_eq_false_iff]
  refine ⟨?_, ?_, ?_⟩
  · exact ne_of_mem_octets '/' (by decide) (fun char hchar => (h.2 char hchar).1)
      octet hmem
  · exact ne_of_mem_octets '?' (by decide) (fun char hchar => (h.2 char hchar).2.1)
      octet hmem
  · exact ne_of_mem_octets '#' (by decide) (fun char hchar => (h.2 char hchar).2.2)
      octet hmem

/-- An authority that is read is a text of one. -/
theorem isAuthorityText_of_isHost {host : Octets} (h : Target.IsHost host) :
    IsAuthorityText (asciiText host) := by
  have hoctets := octets_asciiText h.ascii
  refine ⟨?_, fun char hchar => ⟨?_, ?_, ?_⟩⟩
  · intro hempty
    rw [hempty] at hoctets
    exact h.nonempty hoctets.symm
  all_goals
    refine ne_of_mem_text (by decide) (fun octet hmem => ?_) char hchar
    rw [hoctets] at hmem
    have hinside := Target.endsAuthority_eq_false_iff.mp (h.inside octet hmem)
  · exact hinside.1
  · exact hinside.2.1
  · exact hinside.2.2

theorem isSchemeText_of_octets {spelled : Octets}
    (h : ∀ octet ∈ spelled, Target.isSchemeOctet octet = true) :
    IsSchemeText (asciiText spelled) := by
  have hoctets := octets_asciiText fun octet hmem =>
    Target.toNat_le_of_isSchemeOctet (h octet hmem)
  refine fun char hchar => ⟨?_, ?_, ?_, ?_⟩
  all_goals
    refine ne_of_mem_text (by decide) (fun octet hmem => ?_) char hchar
    rw [hoctets] at hmem
    rintro rfl
    exact absurd (h _ hmem) (by decide)

/-- The text of octets that are spelled with a scheme and an authority. -/
theorem text_of_octets_absolute {text rest : String} {spelled host : Octets}
    (hspelled : ∀ octet ∈ spelled, Target.isSchemeOctet octet = true) (hhost : Target.IsHost host)
    (h : Utf8.octets text = spelled ++ Target.schemeMark ++ host ++ Utf8.octets rest) :
    text = asciiText spelled ++ "://" ++ asciiText host ++ rest := by
  rw [← Utf8.octets_inj, h, Utf8.octets_append, Utf8.octets_append, Utf8.octets_append,
    octets_schemeMark, octets_asciiText hhost.ascii,
    octets_asciiText fun octet hmem => Target.toNat_le_of_isSchemeOctet (hspelled octet hmem)]

/-! ## Targets and what they ask for -/

/-- A path with a query in front of which nothing follows a mark of a query has none. -/
theorem withQuery_eq_plain {path rest : String} {query : Option String}
    (hrest : ∀ char ∈ rest.toList, char ≠ '?')
    (h : Utf8.octets (Target.withQuery path query) = Utf8.octets rest) :
    query = none ∧ path = rest := by
  cases query with
  | none => exact ⟨rfl, Utf8.octets_inj.mp h⟩
  | some text =>
      rw [Target.octets_withQuery_some] at h
      refine absurd rfl (ne_of_mem_octets '?' (by decide) hrest Target.questionMark ?_)
      rw [← h]
      simp

theorem Route.path_ne_question (route : Route) : ∀ char ∈ route.path.toList, char ≠ '?' := by
  cases route <;> decide

theorem Route.head?_path (route : Route) :
    (Utf8.octets route.path).head? = some Target.slash := by
  cases route <;> decide

/-- The parts of a target that is spelled with a scheme and an authority. -/
theorem parts_of_spells_absolute {octets : Octets} {target : Target}
    {scheme authority : String} (rest : String) (hspells : Target.Spells grammar octets target)
    (hscheme : IsSchemeText scheme) (hauthority : IsAuthorityText authority)
    (hrest : rest = "" ∨ (Utf8.octets rest).head? = some Target.slash)
    (hquery : ∀ char ∈ rest.toList, char ≠ '?')
    (h : octets = Utf8.octets scheme ++ Target.schemeMark ++ Utf8.octets authority ++
      Utf8.octets rest) :
    target.query = none ∧ target.path = if rest = "" then "/" else rest := by
  have hslash : Target.slash ∈ octets := by
    rw [h]
    simp [Target.schemeMark, Target.slash]
  cases hspells with
  | asterisk => exact absurd hslash (by decide)
  | @origin path query hpath hparts =>
      have hne : path ≠ "" := by
        rintro rfl
        cases hpath
      rw [← Target.head?_withQuery hne query, h, List.append_assoc, List.append_assoc] at hpath
      cases hoctets : Utf8.octets scheme with
      | nil =>
          rw [hoctets] at hpath
          cases hpath
      | cons first later =>
          rw [hoctets] at hpath
          cases hpath
          refine absurd rfl (ne_of_mem_octets '/' (by decide)
            (fun char hchar => (hscheme char hchar).2.1) Target.slash ?_)
          rw [hoctets]
          exact List.mem_cons_self
  | authority hhost =>
      have hinside := hhost.inside Target.slash hslash
      exact absurd hinside (by decide)
  | @absolute spelled host kept path query hspelled hcase hhost hpath hparts =>
      have hcolon : Utf8.octets scheme = spelled ∧
          Target.schemeMark ++ (Utf8.octets authority ++ Utf8.octets rest) =
            Target.schemeMark ++ (host ++ Utf8.octets (Target.withQuery path query)) := by
        refine split_unique (· ≠ 0x3A) (fun octet hmem => ?_) (fun octet hmem => ?_)
          (by rintro octet ⟨⟩; rfl) (by rintro octet ⟨⟩; rfl) ?_
        · rw [decide_eq_true_eq]
          exact ne_of_mem_octets ':' (by decide)
            (fun char hchar => (hscheme char hchar).1) octet hmem
        · rw [decide_eq_true_eq]
          exact Target.ne_colon_of_isSchemeOctet (hspelled octet hmem)
        · simpa only [List.append_assoc] using h.symm
      have hpair := split_unique (fun octet => !Target.endsAuthority octet)
        (fun octet hmem => by rw [hauthority.inside octet hmem]; rfl)
        (fun octet hmem => by rw [hhost.inside octet hmem]; rfl)
        (fun octet hmem => by
          obtain rfl | hrest := hrest
          · cases hmem
          · rw [hrest] at hmem
            cases hmem
            rfl)
        (fun octet hmem => by rw [Target.endsAuthority_head? hpath octet hmem]; rfl)
        (List.append_cancel_left hcolon.2)
      obtain ⟨rfl, rfl⟩ := withQuery_eq_plain hquery hpair.2.symm
      exact ⟨rfl, rfl⟩

/-- The parts of a target that is spelled as the path of a route. -/
theorem parts_of_spells_path {octets : Octets} {target : Target} {route : Route}
    (hspells : Target.Spells grammar octets target) (h : octets = Utf8.octets route.path) :
    target.query = none ∧ target.path = route.path := by
  have hhead := route.head?_path
  rw [← h] at hhead
  cases hspells with
  | asterisk => cases hhead
  | origin hslash hparts => exact withQuery_eq_plain route.path_ne_question h
  | authority hhost =>
      have hinside := hhost.inside Target.slash (List.mem_of_mem_head? hhead)
      exact absurd hinside (by decide)
  | @absolute spelled host scheme path query hspelled hcase hhost hslash hparts =>
      cases spelled with
      | nil => cases hhead
      | cons first later =>
          cases hhead
          exact absurd rfl (Target.ne_slash_of_isSchemeOctet (hspelled _ List.mem_cons_self))

/-- A target that is spelled so has no query and the path of a route exactly if its text asks for
that route. -/
theorem asksFor_iff {text : String} {target : Target} {route : Route}
    (hspells : Target.Spells grammar (Utf8.octets text) target) :
    AsksFor text route ↔ target.query = none ∧ target.path = route.path := by
  constructor
  · intro hasks
    cases hasks with
    | path => exact parts_of_spells_path hspells rfl
    | absolute hscheme hauthority =>
        have hparts := parts_of_spells_absolute route.path hspells hscheme hauthority
          (.inr route.head?_path) route.path_ne_question
          (by simp only [Utf8.octets_append, octets_schemeMark])
        rwa [if_neg (by cases route <;> decide)] at hparts
    | rootless hscheme hauthority =>
        have hparts := parts_of_spells_absolute "" hspells hscheme hauthority
          (.inl rfl) (by simp)
          (by simp only [Utf8.octets_append, octets_schemeMark]; exact (List.append_nil _).symm)
        rwa [if_pos rfl] at hparts
  · rintro ⟨hquery, hpath⟩
    generalize hoctets : Utf8.octets text = octets at hspells
    cases hspells with
    | asterisk => exact absurd hpath (by cases route <;> decide)
    | origin hslash hparts =>
        change _ = route.path at hpath
        change _ = none at hquery
        subst hquery hpath
        rw [Target.withQuery, Utf8.octets_inj] at hoctets
        rw [hoctets]
        exact .path route
    | authority hhost =>
        change "" = route.path at hpath
        exact absurd hpath (by cases route <;> decide)
    | @absolute spelled host scheme path query hspelled hcase hhost hslash hparts =>
        change _ = none at hquery
        subst hquery
        have hscheme := isSchemeText_of_octets hspelled
        have hauthority := isAuthorityText_of_isHost hhost
        have htext : text = asciiText spelled ++ "://" ++ asciiText host ++ path :=
          text_of_octets_absolute hspelled hhost hoctets
        rw [htext]
        by_cases hempty : path = ""
        · subst hempty
          obtain rfl : route = .info := by
            cases route with
            | health =>
                change "/" = Route.health.path at hpath
                exact absurd hpath (by decide)
            | info => rfl
          rw [String.append_empty]
          exact .rootless hscheme hauthority
        · change (if path = "" then "/" else path) = route.path at hpath
          rw [if_neg hempty] at hpath
          rw [hpath]
          exact .absolute hscheme hauthority route

/-- The targets that a service answers, by the texts they are read from. -/
theorem asksFor_withoutFragment_iff {text : String} {target : Target}
    (hparse : Target.parse (Utf8.octets text) grammar = .ok target) (route : Route) :
    AsksFor (withoutFragment text) route ↔ target.query = none ∧ target.path = route.path := by
  apply asksFor_iff
  rw [octets_withoutFragment]
  exact Target.spells_of_parse hparse

/-! ## The parts of a built request -/

theorem parts_of_build {method target : String} {headers : List (String × String)}
    {request : Request} (h : Request.build method target headers grammar = .ok request) :
    Method.ofName? method = some request.method ∧
      Target.parse (Utf8.octets target) grammar = .ok request.target := by
  unfold Request.build at h
  split at h
  · cases h
  next token htoken =>
    split at h
    · cases h
    next parsed hparsed =>
      cases hheaders : headers.mapM fun (name, value) => Header.build name value with
      | error fault =>
          rw [hheaders] at h
          cases h
      | ok built =>
          rw [hheaders] at h
          cases h
          exact ⟨htoken, hparsed⟩

/-! ## Answers -/

namespace Service

/-- A request asks for a route if it is a GET for the path of the route without a query. -/
def Asks (request : Request) (route : Route) : Prop :=
  request.method = .get ∧ request.target.query = none ∧ request.target.path = route.path

/-- The paths that have handlers are the paths of the routes. -/
theorem route_of_find? {service : Service} {path : String} {methods : MethodRouter Response}
    (h : service.routes.find? path = some methods) :
    ∃ route : Route, path = route.path ∧ methods = service.methods route := by
  simp only [routes, Router.find?, List.lookup_cons, List.lookup_nil] at h
  split at h
  next heq =>
    cases h
    exact ⟨.health, eq_of_beq heq, rfl⟩
  · split at h
    next heq =>
      cases h
      exact ⟨.info, eq_of_beq heq, rfl⟩
    · cases h

/-- On a route no method but GET finds anything. -/
theorem methods_of_ne_get (service : Service) {request : Request} {route : Route}
    (h : request.method ≠ .get) :
    (service.methods route).handler request.method request = handleMissing request := by
  rw [MethodRouter.handler, if_neg h]
  split <;> rfl

theorem handle_fst (service : Service) (request : Request) :
    (service.handle request).1 =
      (rejectQuery (service.routes.handler request) request).complete
        (service.routes.notice request) := by
  simp only [handle, router, Router.handler_layer, Router.notice_layer]
  rfl

/-- Each request leaves a record of the response that it gets. -/
theorem handle_snd (service : Service) (request : Request) :
    (service.handle request).2 =
      service.record request.method request.target (service.handle request).1 := by
  simp only [handle, router, Router.handler_layer]
  rfl

/-- What asks for a route is answered with its body. -/
theorem handle_of_asks (service : Service) {request : Request} {route : Route}
    (h : Asks request route) :
    (service.handle request).1 =
      ⟨.ok,
        [.ofText Header.contentType "application/json",
          .ofText Header.contentLength
            (Decimal.numeral (Utf8.octets (service.body route)).length)],
        Utf8.octets (service.body route)⟩ := by
  obtain ⟨hmethod, hquery, hpath⟩ := h
  have hfind : service.routes.find? request.target.path = some (service.methods route) := by
    rw [hpath]
    cases route <;> rfl
  rw [handle_fst, rejectQuery, hquery, Router.handler, Router.notice, hfind, hmethod]
  rfl

/-- What asks for no route is not found. -/
theorem handle_of_not_asks (service : Service) {request : Request}
    (h : ∀ route, ¬ Asks request route) :
    (service.handle request).1 =
      ⟨.notFound, service.routes.notice request ++ [.ofText Header.contentLength "0"], []⟩ := by
  have hmissing : rejectQuery (service.routes.handler request) request = handleMissing request := by
    rw [rejectQuery]
    split
    · rfl
    next hquery =>
      rw [Option.not_isSome_iff_eq_none] at hquery
      rw [Router.handler]
      cases hfind : service.routes.find? request.target.path with
      | none => rfl
      | some methods =>
          obtain ⟨route, hpath, rfl⟩ := route_of_find? hfind
          exact service.methods_of_ne_get fun hget => h route ⟨hget, hquery, hpath⟩
  rw [handle_fst, hmissing, Response.complete]
  simp only [handleMissing, List.nil_append, List.length_nil, Decimal.numeral_zero]

/-- Of a request the method, the path and the query decide what is answered. -/
theorem handle_congr (service : Service) {request request' : Request}
    (hmethod : request.method = request'.method)
    (hpath : request.target.path = request'.target.path)
    (hquery : request.target.query = request'.target.query) :
    (service.handle request).1 = (service.handle request').1 := by
  have hasks : ∀ route, Asks request route ↔ Asks request' route := by
    intro route
    rw [Asks, Asks, hmethod, hpath, hquery]
  by_cases hroute : ∃ route, Asks request route
  · obtain ⟨route, hroute⟩ := hroute
    rw [handle_of_asks service hroute, handle_of_asks service ((hasks route).mp hroute)]
  · have hnone : ∀ route, ¬ Asks request route := fun route hasked => hroute ⟨route, hasked⟩
    have hnotice : service.routes.notice request = service.routes.notice request' := by
      rw [Router.notice, Router.notice, hmethod, hpath]
    rw [handle_of_not_asks service hnone,
      handle_of_not_asks service fun route hasked => hnone route ((hasks route).mpr hasked),
      hnotice]

end Service

/-! ## The law -/

/-- Whether a request is answered is seen on the texts that it is built from. -/
theorem asks_iff {method target : String} {headers : List (String × String)} {request : Request}
    (hbuild : Request.build method target headers grammar = .ok request) (route : Route) :
    Service.Asks request route ↔ method = "GET" ∧ AsksFor (withoutFragment target) route := by
  obtain ⟨hmethod, htarget⟩ := parts_of_build hbuild
  rw [Service.Asks, Method.eq_get_iff hmethod, asksFor_withoutFragment_iff htarget]

/-- A service answers exactly the GETs for a route, with the JSON text of that route, and everything
else is not found, with nothing, by whichever grammar the target was read. -/
theorem routing_law (identity : Identity) (config : Config) {grammar : Target.Grammar}
    {method target : String} {headers : List (String × String)} {request : Request}
    (hbuild : Request.build method target headers grammar = .ok request) :
    let asks := fun route => method = "GET" ∧ AsksFor (withoutFragment target) route
    let response := ((Service.ofConfig identity config).handle request).1
    (response.status = .ok ↔ ∃ route, asks route) ∧
      (∀ route, asks route →
        firstValue? Header.contentType response.headers = some (Utf8.octets "application/json") ∧
        firstValue? Header.contentLength response.headers =
          some (Utf8.octets (Decimal.numeral response.body.length)) ∧
        response.body = Utf8.octets (match route with
          | .health => Health.encode ⟨"ok", identity.name⟩
          | .info => Info.encode ⟨identity.name, identity.language, config.environmentLabel,
              config.versionLabel⟩)) ∧
      ((¬ ∃ route, asks route) →
        response.status = .notFound ∧ response.body = [] ∧
        firstValue? Header.contentLength response.headers = some (Utf8.octets "0") ∧
        firstValue? Header.contentType response.headers = none) := by
  intro asks response
  have hasks : ∀ route, asks route ↔ Service.Asks request route :=
    fun route => (asks_iff hbuild route).symm
  have hnone : (¬ ∃ route, asks route) → response = _ := fun hnone =>
    Service.handle_of_not_asks _ fun route hroute => hnone ⟨route, (hasks route).mpr hroute⟩
  refine ⟨⟨fun hstatus => ?_, ?_⟩, fun route hroute => ?_, fun hmissing => ?_⟩
  · by_contra hmissing
    rw [hnone hmissing] at hstatus
    cases hstatus
  · rintro ⟨route, hroute⟩
    change ((Service.ofConfig identity config).handle request).1.status = .ok
    rw [Service.handle_of_asks _ ((hasks route).mp hroute)]
  · have hresponse : response = _ := Service.handle_of_asks _ ((hasks route).mp hroute)
    rw [hresponse]
    refine ⟨?_, ?_, ?_⟩
    · exact firstValue?_ofText_cons _ _ _
    · rw [firstValue?_ofText_cons_of_ne (by decide)]
      exact firstValue?_ofText_cons _ _ _
    · refine congrArg Utf8.octets ?_
      cases route <;> rfl
  · rw [hnone hmissing]
    refine ⟨rfl, rfl, ?_, ?_⟩
    · obtain hnotice | hnotice := Router.notice_cases _ request
      · rw [hnotice, List.nil_append, firstValue?_ofText_cons]
      · rw [hnotice, List.singleton_append, firstValue?_ofText_cons_of_ne (by decide),
          firstValue?_ofText_cons]
    · obtain hnotice | hnotice := Router.notice_cases _ request
      · rw [hnotice, List.nil_append, firstValue?_ofText_cons_of_ne (by decide), firstValue?_nil]
      · rw [hnotice, List.singleton_append, firstValue?_ofText_cons_of_ne (by decide),
          firstValue?_ofText_cons_of_ne (by decide), firstValue?_nil]

/-- Behind an authority the path of the health is found, with a fragment after it. -/
theorem health_found_behind_authority :
    ∃ request, Request.build "GET" "HTTP://h:1/health#x" [] = .ok request ∧
      ((Service.ofConfig .api .default).handle request).1.status = .ok := by
  have hbuild : Request.build "GET" "HTTP://h:1/health#x" [] =
      .ok ⟨.get, .absolute "http" "h:1" "/health" none, []⟩ := by
    decide +kernel
  have htext : withoutFragment "HTTP://h:1/health#x" =
      "HTTP" ++ "://" ++ "h:1" ++ Route.health.path := by
    decide
  refine ⟨_, hbuild, (routing_law .api .default hbuild).1.mpr ⟨.health, rfl, ?_⟩⟩
  rw [htext]
  exact .absolute (by decide) (by decide) .health

end Beacon
