import Beacon.Proofs.Exchanges
import Beacon.Proofs.Release

/-!
# Over the wire as in memory

The answers of a daemon to its clients refine those of a router, in every state that the daemon can
come to. Once an endpoint has ended, nobody is reached at its address but somebody else. One kind
of target makes the difference: one that just fits, but not with the root that it is sent with.
-/

namespace Beacon

open Http

open Client (Ask Called Reply)

/-! ## Targets without a path -/

theorem octets_rootless {authority : Octets} (h : Target.IsHost authority) :
    Utf8.octets ("http://" ++ asciiText authority) =
      Target.httpScheme ++ Target.schemeMark ++
        (authority ++ Utf8.octets (Target.withQuery "" none)) := by
  have hfront : Utf8.octets "http://" = Target.httpScheme ++ Target.schemeMark := by decide
  have hnothing : Utf8.octets (Target.withQuery "" none) = [] := rfl
  rw [Utf8.octets_append, hfront, octets_asciiText h.ascii, hnothing, List.append_nil]

theorem length_rootless (authority : Octets) :
    (Target.httpScheme ++ Target.schemeMark ++
      (authority ++ Utf8.octets (Target.withQuery "" none))).length = authority.length + 7 := by
  simp only [List.length_append]
  exact Nat.add_comm 7 _

/-- A scheme and an authority are a target without a path. -/
theorem parse_rootless {authority : Octets} (h : Target.IsHost authority)
    (hlength : authority.length + 7 ≤ Target.maxLength) :
    Target.parse (Utf8.octets ("http://" ++ asciiText authority)) =
      .ok (.absolute "http" (asciiText authority) "" none) := by
  have hscheme : Target.IsScheme Target.httpScheme := ⟨by decide, by decide, by decide⟩
  have hparts : Target.IsPathAndQuery .strict "" none := ⟨by rintro octet ⟨⟩, by rintro text ⟨⟩⟩
  have hname : asciiText Target.httpScheme = "http" := by decide
  rw [octets_rootless h, Target.parse_absolute hscheme h (.inl rfl) hparts
    (by rwa [length_rootless]), hname]

/-- Without a fragment, a scheme and an authority are all of their target. -/
theorem length_withoutFragment_rootless {authority : Octets} (h : Target.IsHost authority) :
    (Utf8.octets (withoutFragment ("http://" ++ asciiText authority))).length =
      authority.length + 7 := by
  have hnone : ∀ octet ∈ Target.httpScheme ++ Target.schemeMark ++ authority,
      octet ≠ Target.numberSign := by
    intro octet hmem
    rcases List.mem_append.mp hmem with hmem | hmem
    · have hfront : ∀ octet ∈ Target.httpScheme ++ Target.schemeMark,
          octet ≠ Target.numberSign := by decide
      exact hfront octet hmem
    · exact h.ne_numberSign octet hmem
  have hshown := Target.beforeFragment_append hnone (Utf8.octets (Target.withQuery "" none))
  rw [octets_withoutFragment, octets_rootless h, ← List.append_assoc, hshown,
    show Target.beforeFragment (Utf8.octets (Target.withQuery "" none)) = [] from rfl,
    List.append_nil, List.length_append]
  exact Nat.add_comm 7 _

/-- An authority of one letter that leaves no room for a path. -/
def longestAuthority : Octets :=
  List.replicate 65527 0x68

theorem isHost_longestAuthority : Target.IsHost longestAuthority := by
  refine Target.isHost_of_isAuthorityOctet ?_ ?_
  · exact List.ne_nil_of_length_pos (by rw [longestAuthority, List.length_replicate]; omega)
  · intro octet hmem
    rw [List.eq_of_mem_replicate hmem]
    decide

/-! ## Addresses of endpoints that have ended -/

namespace Custody

variable {c c' : Custody} {endpoint : Endpoint}

/-- Somebody else has the address of an endpoint: another listener is reached there, or what was the
endpoint's own listener is that of an endpoint that has not ended, as happens with ports. -/
def TakenOver (c : Custody) (endpoint : Endpoint) : Prop :=
  endpoint.listener ∈ c.listeners ∨
    ∃ listener, c.host.reach endpoint.address = .ok listener ∧ listener ≠ endpoint.listener

theorem mem_listening_of_reach {host : Host} {address : Address} {listener : Listener}
    (h : host.reach address = .ok listener) : listener ∈ host.listening := by
  cases address with
  | tcp port =>
      simp only [Host.reach] at h
      split at h
      · cases h
      · split at h
        next hmem =>
          cases h
          exact hmem
        · cases h
  | unix path =>
      simp only [Host.reach] at h
      split at h
      · cases h
      · split at h
        next hmem =>
          cases h
          exact hmem
        · cases h

/-- The listener of an endpoint that has ended is open only as that of another endpoint. -/
def Vacated (c : Custody) (endpoint : Endpoint) : Prop :=
  endpoint.listener ∈ c.host.listening → endpoint.listener ∈ c.listeners

/-- Nobody is reached at the address of an endpoint that has ended, unless somebody else has it. -/
theorem Vacated.call (h : c.Vacated endpoint) (hfree : ¬ c.TakenOver endpoint) (limit : Duration)
    (call : Client.Call) :
    ∃ fault, c.daemon.call endpoint.address limit call =
      (.error (.connect endpoint.address fault), c.daemon) := by
  cases hreach : c.host.reach endpoint.address with
  | error fault => exact ⟨fault, Daemon.call_of_unreached hreach limit call⟩
  | ok listener =>
      by_cases hown : listener = endpoint.listener
      · have hlistening := mem_listening_of_reach hreach
        rw [hown] at hlistening
        exact absurd (.inl (h hlistening)) hfree
      · exact absurd (.inr ⟨listener, hreach, hown⟩) hfree

theorem Vacated.of_runs {allowed : Custody → Daemon.Move → Custody → Prop}
    (h : c.Vacated endpoint) (hrun : Runs allowed c c') : c'.Vacated endpoint := by
  induction hrun with
  | refl => exact h
  | step _ hstep _ ih => exact fun hopen => (attends_of_step hstep).mem_listeners ih hopen

/-- An endpoint that is not served has ended once its owner has let it go. -/
theorem vacated_of_step {move : Daemon.Move}
    (hmove : move = .drop endpoint ∨ move = .release endpoint)
    (hstep : c.step move = some c') : c'.Vacated endpoint := by
  intro hopen
  have hclosed : c'.host.listening = c.host.listening.filter (· != endpoint.listener) := by
    rcases hmove with rfl | rfl
    · obtain ⟨-, d, htaken, rfl⟩ := step_of_taken rfl hstep
      cases htaken
      exact listening_drop c.host endpoint
    · obtain ⟨-, d, htaken, rfl⟩ := step_of_taken rfl hstep
      cases htaken
      exact listening_release c.host endpoint
  rw [hclosed, List.mem_filter] at hopen
  exact absurd rfl (bne_iff_ne.mp hopen.2)

/-! ## Refinement -/

/-- Where a daemon serves, clients are told over the wire what a router gives, whatever the
transport and the order, and each answer leaves one record. Clients that fail to connect, or whose
requests cannot be built, leave the daemon as it was. Once an endpoint has ended, and nobody else
has its address, every call there fails to connect. The length of a body can be stated, as can that
of everything that is held in memory. -/
theorem wire_refines_router {allowed : Custody → Daemon.Move → Custody → Prop} {config : Config}
    {identity : Identity} {sink : Sink} {host : Host} {c : Custody}
    (hrun : Runs allowed (create config identity sink host) c)
    (hlength : ∀ route, (Utf8.octets (c.daemon.service.body route)).length ≤ maxBodyLength) :
    (∀ asks : List Ask, (∀ ask ∈ asks,
        (∃ fault, c.host.reach ask.address = .error fault) ∨
          (c.daemon.Serves ask.address ∧ ask.Fits)) →
      ∃ records events, c.daemon.RepliesAll asks (c.daemon.askAll asks).1 records ∧
        (c.daemon.askAll asks).2 = c.daemon.recorded records events) ∧
    (∀ address limit call place source,
      (c.daemon.call address limit call).1 = .error (.connect place source) →
        (c.daemon.call address limit call).2 = c.daemon) ∧
    (∀ ask fault, Target.parse (Utf8.octets ask.path) ask.grammar = .error fault →
      ∃ events, (c.daemon.ask ask).2 = c.daemon.recorded [] events) ∧
    (∀ task ∈ c.daemon.tasks, ∀ endpoint result,
      task.endpoint = some endpoint → task.stage = .returned result → ¬ c.TakenOver endpoint →
        ∀ limit call, ∃ fault, c.daemon.call endpoint.address limit call =
          (.error (.connect endpoint.address fault), c.daemon)) ∧
    ∀ endpoint move c' c'', move = .drop endpoint ∨ move = .release endpoint →
      c.step move = some c' → Runs allowed c' c'' → ¬ c''.TakenOver endpoint →
        ∀ limit call, ∃ fault, c''.daemon.call endpoint.address limit call =
          (.error (.connect endpoint.address fault), c''.daemon) := by
  refine ⟨fun asks hasks => Daemon.replies_of_askAll hlength hasks,
    fun address limit call place source => Daemon.call_of_connect,
    fun ask fault hfault => Daemon.ask_of_fault hfault, ?_, ?_⟩
  · intro task hmem endpoint result hendpoint hstage hfree limit call
    have hcloses := (sound_of_runs hrun).closes
    have hvacated : c.Vacated endpoint := hcloses task hmem endpoint hendpoint (by rw [hstage]; rfl)
    exact hvacated.call hfree limit call
  · intro endpoint move c' c'' hmove hstep hlater hfree limit call
    exact ((vacated_of_step hmove hstep).of_runs hlater).call hfree limit call

/-- A daemon for a socket path that keeps its records, on a host without files. -/
def remembering : Custody :=
  create ⟨.unix [0x73], "unknown", "unknown"⟩ .cache (.kept (.empty 8)) (.idle ⟨[], []⟩ true)

def remembered : Custody :=
  remembering.after [.run, .advance 0, .advance 0, .advance 0, .advance 0]

theorem remembered_serves : remembered.daemon.Serves (.unix [0x73]) :=
  ⟨.unix 1, by cbv, by cbv⟩

/-- The bodies of a service without labels are short. -/
theorem length_body_of_service {d : Daemon}
    (h : d.service = .ofConfig .cache ⟨.unix [0x73], "unknown", "unknown"⟩) (route : Route) :
    (Utf8.octets (d.service.body route)).length ≤ maxBodyLength := by
  rw [h]
  cases route <;> decide

/-- A request for nothing that is there is answered and recorded, without its fragment, and once a
call has returned nobody is reached at its path. -/
theorem missing_is_recorded :
    let ask : Ask := ⟨.unix [0x73], Client.defaultLimit, .get, "/nothing#x", .strict⟩
    (remembered.daemon.ask ask).1 = .ok (.reply ⟨.notFound, none, []⟩) ∧
      (remembered.daemon.ask ask).2.sink.records = [⟨"rust-cache", "GET", "/nothing", 404⟩] ∧
      ∃ fault, vanished.daemon.call (.unix [0x73]) Client.defaultLimit .health =
        (.error (.connect (.unix [0x73]) fault), vanished.daemon) := by
  intro ask
  have hrun : Runs (fun _ _ _ => True) remembering remembered := runs_after remembering _
  obtain ⟨hreplies, -⟩ := wire_refines_router hrun (length_body_of_service (by cbv))
  have hfits : ask.Fits := Ask.fits_of_method (by decide) (by decide)
  obtain ⟨records, events, hall, hleft⟩ := hreplies [ask] fun other hmem => by
    rw [List.mem_singleton.mp hmem]
    exact .inr ⟨remembered_serves, hfits⟩
  have hrouted : remembered.daemon.routed ask =
      .ok ⟨.notFound, [.ofText Header.contentLength "0"], []⟩ := by
    cbv
  have hshort : ¬ ask.Outgrows := by
    rintro ⟨target, -, -, hlength⟩
    exact absurd hlength (by decide)
  obtain ⟨result, hresults, hreply⟩ := hall.single
  obtain ⟨hresult, record, hrecords, htells⟩ := hreply.of_routed remembered_serves
    (Ask.not_holdsDelete_of_strict rfl) hshort hrouted
  have hone : (remembered.daemon.ask ask).1 = result := (List.cons.inj hresults).1
  have hsink : (remembered.daemon.ask ask).2.sink =
      (remembered.daemon.sink.recordAll [record]).1 := by
    rw [← hrecords]
    exact congrArg Daemon.sink hleft
  have hrecord : record = ⟨"rust-cache", "GET", "/nothing", 404⟩ := by
    have hservice : record.service = "rust-cache" := htells.service.trans (by cbv)
    have hmethod : record.method = "GET" := htells.method.trans (by decide)
    have hpath : record.path = "/nothing" := (htells.path (by decide)).trans (by decide)
    have hstatus : record.status = 404 := htells.status
    rw [← hservice, ← hmethod, ← hpath, ← hstatus]
  refine ⟨?_, ?_, ?_⟩
  · have hkind : Client.contentType? [.ofText Header.contentLength "0"] = none := by decide
    rw [hone, hresult, Reply.ofResponse, hkind]
  · rw [hsink, hrecord]
    cbv
  · have hvanished : Runs (fun _ _ _ => True) onSocket vanished := runs_after onSocket _
    obtain ⟨-, -, -, hreturned, -⟩ :=
      wire_refines_router hvanished (length_body_of_service (by cbv))
    have htasks : vanished.daemon.tasks = [⟨some (.unix 1 [0x73]), .returned (.ok .requested),
        .handed .requested, none, none, false⟩] := by
      cbv
    have hfree : ¬ vanished.TakenOver (.unix 1 [0x73]) := by
      have hnone : vanished.listeners = [] := by cbv
      have hgone : vanished.host.reach (.unix [0x73]) = .error .noEntry := by cbv
      rintro (hmem | ⟨listener, hreach, -⟩)
      · rw [hnone] at hmem
        cases hmem
      · cases hgone.symm.trans hreach
    exact hreturned _ (htasks ▸ List.mem_singleton_self _) (.unix 1 [0x73]) (.ok .requested) rfl rfl
      hfree Client.defaultLimit .health

/-- The longest target without a path gets a root when it is sent, and is refused for its length
without a record, although a router answers it. -/
theorem longest_target_is_refused :
    let ask : Ask :=
      ⟨.unix [0x73], Client.defaultLimit, .get, "http://" ++ asciiText longestAuthority, .strict⟩
    Runs (fun _ _ _ => True) remembering remembered ∧ remembered.daemon.Serves ask.address ∧
      (remembered.daemon.ask ask).1 = .ok (.reply ⟨⟨414, by omega⟩, none, []⟩) ∧
      (remembered.daemon.ask ask).2.sink = remembered.daemon.sink ∧
      ∃ response, remembered.daemon.routed ask = .ok response ∧ response.status = .ok := by
  intro ask
  have hlength : longestAuthority.length + 7 = Target.maxLength := by
    rw [longestAuthority, List.length_replicate]
    rfl
  have hparse : Target.parse (Utf8.octets ask.path) ask.grammar =
      .ok (.absolute "http" (asciiText longestAuthority) "" none) :=
    parse_rootless isHost_longestAuthority (Nat.le_of_eq hlength)
  have houtgrows : ask.Outgrows :=
    ⟨_, hparse, rfl, (length_withoutFragment_rootless isHost_longestAuthority).trans hlength⟩
  have hfits : ask.Fits := Ask.fits_of_method (by decide) (by decide)
  obtain ⟨records, events, hreplies, hleft⟩ :=
    Daemon.replies_of_ask (length_body_of_service (by cbv)) (.inr ⟨remembered_serves, hfits⟩)
  have hasks : Service.Asks ⟨.get, .absolute "http" (asciiText longestAuthority) "" none, []⟩
      .info := ⟨rfl, rfl, rfl⟩
  have hrouted := Daemon.routed_of_parse (d := remembered.daemon) hparse
  rw [Service.handle_of_asks _ hasks] at hrouted
  obtain ⟨hresult, rfl⟩ := hreplies.of_outgrows remembered_serves
    (Ask.not_holdsDelete_of_strict rfl) houtgrows
  refine ⟨runs_after remembering _, remembered_serves, hresult, ?_, _, hrouted, rfl⟩
  rw [hleft]
  rfl

end Custody

end Beacon
