import Beacon.Daemon.Step
import Beacon.Proofs.Answers
import Beacon.Proofs.Bodies

/-!
# Labels and identity, end to end

What a client is told by a daemon is the identity of the daemon and the labels of its environment,
character by character. On the way the labels are resolved, written as JSON, framed as a body,
read from the connection and decoded.
-/

namespace Beacon

open Http

/-! ## Requests for routes -/

namespace Route

def request (route : Route) : Request :=
  ⟨.get, .origin route.path none, [.ofText "host" "localhost"]⟩

theorem parse_path (route : Route) :
    Target.parse (Utf8.octets route.path) = .ok (.origin route.path none) := by
  cases route with
  | health =>
      change Target.parse (Utf8.octets "/health") = .ok (.origin "/health" none)
      decide +kernel
  | info =>
      change Target.parse (Utf8.octets "/") = .ok (.origin "/" none)
      rfl

theorem requestFor_path (route : Route) :
    Client.requestFor .get route.path = .ok route.request :=
  Client.requestFor_of_parse route.parse_path

end Route

/-! ## Answers on a connection -/

namespace Service

def replyFor (service : Service) (route : Route) : Client.Reply :=
  ⟨.ok, some "application/json", Utf8.octets (service.body route)⟩

/-- A client that asks for a route on a connection gets the body of the route. -/
theorem receive_route (service : Service) (route : Route)
    (hlength : (Utf8.octets (service.body route)).length ≤ maxBodyLength) :
    Client.receive .get
        (serveConnection service (RequestHead.write route.request)).octets =
      .ok (service.replyFor route) := by
  have hasks : Asks ⟨.get, .origin route.path none, []⟩ route := ⟨rfl, rfl, rfl⟩
  have hresponse := service.handle_of_asks hasks
  have hbody : (service.handle ⟨.get, .origin route.path none, []⟩).1.body.length ≤
      maxBodyLength := by
    rw [hresponse]
    exact hlength
  have hreceive : Client.receive .get
      (serveConnection service (RequestHead.write route.request)).octets =
      .ok (.ofResponse (service.handle ⟨.get, .origin route.path none, []⟩).1) :=
    Client.receive_requestOf service route.parse_path (by cases route <;> decide)
      (by cases route <;> decide) (by cases route <;> decide) [] hbody
  rw [hreceive, hresponse, Client.Reply.ofResponse, Client.contentType?, firstValue?_ofText_cons]
  rfl

end Service

/-! ## Calls -/

namespace Daemon

/-- A daemon serves an address if one of its calls accepts connections at what is reached there. -/
def Serves (d : Daemon) (address : Address) : Prop :=
  ∃ listener, d.host.reach address = .ok listener ∧ d.isServed listener = true

/-- The daemon as a client finds it where it serves. -/
def peer (d : Daemon) : Client.Peer :=
  .answers fun octets => (serveConnection d.service octets).octets

theorem peerAt_of_serves {d : Daemon} {address : Address} (h : d.Serves address) :
    ∃ listener, d.peerAt address = .ok (listener, d.peer) := by
  obtain ⟨listener, hreach, hserved⟩ := h
  refine ⟨listener, ?_⟩
  rw [peerAt, hreach]
  exact if_pos hserved

/-- Where a daemon serves, a call gives what its exchange with the daemon gives. -/
theorem call_of_serves {d : Daemon} {address : Address} (h : d.Serves address) (limit : Duration)
    (call : Client.Call) :
    (d.call address limit call).1 = (Client.call address limit (.ok d.peer) call).result := by
  obtain ⟨listener, hpeer⟩ := peerAt_of_serves h
  rw [Daemon.call, hpeer]
  rfl

/-- Where a daemon serves, a client of another process makes its exchange with the daemon. -/
theorem visit_of_serves {α : Type} {d : Daemon} {address : Address} (h : d.Serves address)
    (exchange : Except SystemError Client.Peer → Client.Exchange α) :
    (d.visit address exchange).1 = exchange (.ok d.peer) := by
  obtain ⟨listener, hpeer⟩ := peerAt_of_serves h
  rw [visit, hpeer]
  rfl

variable {d : Daemon} {limit : Duration}

/-- A request for a route gets the reply for the route. -/
theorem request_route (hlimit : limit.nanos ≠ 0) {route : Route}
    (hlength : (Utf8.octets (d.service.body route)).length ≤ maxBodyLength) (address : Address) :
    (Client.request address limit (.ok d.peer) .get route.path).result =
      .ok (d.service.replyFor route) := by
  simp only [Client.request, if_neg hlimit, route.requestFor_path, peer]
  exact d.service.receive_route route hlength

theorem call_info (hlimit : limit.nanos ≠ 0)
    (hlength : (Utf8.octets (d.service.body .info)).length ≤ maxBodyLength) (address : Address) :
    (Client.call address limit (.ok d.peer) .info).result = .ok (.info d.service.info) := by
  have hrequest := request_route hlimit hlength address
  change (((Client.request address limit (.ok d.peer) .get Route.info.path).result.bind _).bind
    _).bind _ = _
  rw [hrequest]
  simp only [Except.bind, Client.expectOk, Service.replyFor, if_pos, Client.expectBody,
    Service.body, Info.decode_written]

/-- A client that asks for the health of a daemon is told that it is well. -/
theorem health_of_peer (hlimit : limit.nanos ≠ 0)
    (hlength : (Utf8.octets (d.service.body .health)).length ≤ maxBodyLength)
    (address : Address) :
    (Client.health address limit (.ok d.peer)).result = .ok d.service.health := by
  have hrequest := request_route hlimit hlength address
  change ((Client.request address limit (.ok d.peer) .get Route.health.path).result.bind _).bind
    _ = _
  rw [hrequest]
  simp only [Except.bind, Client.expectOk, Service.replyFor, if_pos, Client.expectBody,
    Service.body, Health.decode_written]

theorem call_health (hlimit : limit.nanos ≠ 0)
    (hlength : (Utf8.octets (d.service.body .health)).length ≤ maxBodyLength)
    (address : Address) :
    (Client.call address limit (.ok d.peer) .health).result = .ok (.health d.service.health) := by
  change (Client.health address limit (.ok d.peer)).result.bind _ = _
  rw [health_of_peer hlimit hlength address]
  rfl

/-- The text of a raw reply for a route is the body of the route. -/
theorem text_of_call_request (hlimit : limit.nanos ≠ 0) {route : Route}
    (hlength : (Utf8.octets (d.service.body route)).length ≤ maxBodyLength) (address : Address) :
    ∃ reply, (Client.call address limit (.ok d.peer) (.request .get route.path)).result =
        .ok (.reply reply) ∧ reply.text = d.service.body route := by
  refine ⟨d.service.replyFor route, ?_, Utf8.display_octets _⟩
  change (Client.request address limit (.ok d.peer) .get route.path).result.bind _ = _
  rw [request_route hlimit hlength address]
  rfl

end Daemon

/-! ## Labels -/

theorem Config.labels_of_resolve {env : Environment} {config : Config}
    (h : (Config.resolve env).result = .ok config) :
    config.environmentLabel = (env .environmentLabel).getD "unknown" ∧
      config.versionLabel = (env .versionLabel).getD "unknown" := by
  unfold Config.resolve at h
  cases hselected : (selectTransport env).result with
  | error fault =>
      simp only [hselected] at h
      cases h
  | ok transport =>
      simp only [hselected] at h
      cases h
      exact ⟨rfl, rfl⟩

/-- Where a daemon serves, a client is told the identity and the labels as they are, and the text of
a body is the JSON text that was written. The length of a body can be stated, as can that of
everything that is held in memory. -/
theorem labels_travel_verbatim {env : Environment} {d : Daemon} {address : Address}
    {limit : Duration} (hresolve : (Config.resolve env).result = .ok d.config)
    (hserves : d.Serves address) (hlimit : limit.nanos ≠ 0)
    (hlength : ∀ route, (Utf8.octets (d.service.body route)).length ≤ maxBodyLength) :
    let info : Info := ⟨d.identity.name, d.identity.language,
      (env .environmentLabel).getD "unknown", (env .versionLabel).getD "unknown"⟩
    let health : Health := ⟨"ok", d.identity.name⟩
    (d.call address limit .info).1 = .ok (.info info) ∧
      (d.call address limit .health).1 = .ok (.health health) ∧
      (∃ reply, (d.call address limit (.request .get "/")).1 = .ok (.reply reply) ∧
        reply.text = info.encode) ∧
      ∃ reply, (d.call address limit (.request .get "/health")).1 = .ok (.reply reply) ∧
        reply.text = health.encode := by
  intro info health
  obtain ⟨henvironment, hversion⟩ := Config.labels_of_resolve hresolve
  have hinfo : d.service.info = info := by
    change Info.mk d.identity.name d.identity.language d.config.environmentLabel
      d.config.versionLabel = info
    rw [henvironment, hversion]
  have hroot : d.service.body .info = info.encode := congrArg Info.encode hinfo
  simp only [Daemon.call_of_serves hserves, ← hroot]
  refine ⟨?_, ?_, ?_, ?_⟩
  · rw [Daemon.call_info hlimit (hlength .info), hinfo]
  · exact Daemon.call_health hlimit (hlength .health) address
  · exact Daemon.text_of_call_request hlimit (hlength .info) address
  · exact Daemon.text_of_call_request hlimit (hlength .health) address

/-- An environment with a label of a quote, a backslash, a letter beyond ASCII and a line feed, and
with an empty label. -/
def oddLabels : Environment
  | .environmentLabel => some "\"\\é\n"
  | .versionLabel => some ""
  | _ => none

/-- The daemon of that environment, serving the default port. -/
def oddLabelsDaemon : Daemon :=
  let created := Daemon.create ⟨.defaultTcp, "\"\\é\n", ""⟩ .cache .logged (.idle ⟨[], []⟩ true)
  (created.bind.2.serve (.tcp defaultPort)).setStage 0 .accepting

/-- Odd labels arrive as they are. -/
theorem odd_labels_travel :
    oddLabelsDaemon.Serves (.tcp defaultPort) ∧
      (oddLabelsDaemon.call (.tcp defaultPort) Client.defaultLimit .info).1 =
        .ok (.info ⟨"rust-cache", "rust", "\"\\é\n", ""⟩) := by
  have hserves : oddLabelsDaemon.Serves (.tcp defaultPort) := ⟨.tcp defaultPort, rfl, rfl⟩
  have hresolve : (Config.resolve oddLabels).result = .ok oddLabelsDaemon.config := rfl
  have hlength : ∀ route, (Utf8.octets (oddLabelsDaemon.service.body route)).length ≤
      maxBodyLength := by
    intro route
    cases route <;> decide
  exact ⟨hserves, (labels_travel_verbatim hresolve hserves (by decide) hlength).1⟩

end Beacon
