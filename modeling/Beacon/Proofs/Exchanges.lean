import Beacon.Proofs.Accounting
import Beacon.Proofs.Labels

/-!
# Exchanges with a daemon

What clients ask of a daemon, one after another, and what comes of it. Where the daemon serves, a
client is told what a router of the service gives, and each answer leaves one record. Where nobody
is reached, or no request can be built, the daemon is left as it was.
-/

namespace Beacon

open Http

/-! ## What is asked -/

namespace Client

/-- What a client is to ask for, of whom, and how long it may take. -/
structure Ask where
  address : Address
  limit : Duration
  method : Method
  path : String
  grammar : Target.Grammar

namespace Ask

/-- The request by which a router is asked for the same. -/
def draft (ask : Ask) : Draft :=
  ⟨ask.method.name, ask.path, []⟩

/-- The exchange has time, and the head of its request has room where it is read. -/
structure Fits (ask : Ask) : Prop where
  time : ask.limit.nanos ≠ 0
  room : ∀ target, Target.parse (Utf8.octets ask.path) ask.grammar = .ok target →
    (RequestHead.write (requestOf ask.method target)).length ≤ maxHeadLength

/-- A request whose method is not overlong has room. -/
theorem fits_of_method {ask : Ask} (htime : ask.limit.nanos ≠ 0)
    (hmethod : ask.method.octets.length + Target.maxLength + 32 ≤ maxHeadLength) : ask.Fits := by
  refine ⟨htime, fun target htarget => ?_⟩
  have hwire := Target.length_wire_le htarget
  have hhost : (headerBlock [.ofText "host" "localhost"]).length = 19 := by decide
  have hend : lineEnd.length = 2 := rfl
  simp only [RequestHead.write, requestOf, List.length_append, List.length_singleton,
    length_octets_version, hhost, hend]
  omega

/-- The target has no path behind its authority, and before its fragment it is as long as a target
may be: with the root that it is sent with, it is too long. -/
def Outgrows (ask : Ask) : Prop :=
  ∃ target, Target.parse (Utf8.octets ask.path) ask.grammar = .ok target ∧
    target.isRootless = true ∧ (Utf8.octets (withoutFragment ask.path)).length = Target.maxLength

/-- The target can be built, and holds the delete character before its fragment: no request line may
hold it. -/
def HoldsDelete (ask : Ask) : Prop :=
  ∃ target, Target.parse (Utf8.octets ask.path) ask.grammar = .ok target ∧
    Target.delete ∈ Utf8.octets (withoutFragment ask.path)

/-- By the strict grammar there is no such target. -/
theorem not_holdsDelete_of_strict {ask : Ask} (h : ask.grammar = .strict) : ¬ ask.HoldsDelete := by
  rintro ⟨target, htarget, hdelete⟩
  rw [octets_withoutFragment, ← Target.delete_mem_wire_iff htarget] at hdelete
  cases h.symm.trans (Target.grammar_of_delete_mem_wire htarget hdelete)

end Ask

end Client

open Client (Ask Called Reply)

namespace Daemon

def ask (d : Daemon) (ask : Ask) : Except ClientError Called × Daemon :=
  d.call ask.address ask.limit (.request ask.method ask.path ask.grammar)

def askAll (d : Daemon) : List Ask → List (Except ClientError Called) × Daemon
  | [] => ([], d)
  | ask :: rest =>
      let asked := d.ask ask
      let later := asked.2.askAll rest
      (asked.1 :: later.1, later.2)

/-- What a router of the daemon's service gives for what is asked. -/
def routed (d : Daemon) (ask : Ask) : Except RequestError Response :=
  (Application.send ⟨d.service, d.sink⟩ ask.draft ask.grammar).result

/-- The daemon after records were left and events were reported: nothing else is changed. -/
def recorded (d : Daemon) (records : List Record) (events : List Log.Event) : Daemon :=
  { d with sink := (d.sink.recordAll records).1, log := d.log ++ events }

end Daemon

/-- A record that tells of what was asked and of the response to it. -/
structure Record.TellsOfAsk (record : Record) (identity : Identity) (ask : Ask)
    (response : Response) : Prop where
  service : record.service = identity.name
  method : record.method = ask.method.name
  path : ask.path.toList.head? = some '/' → record.path = withoutFragment ask.path
  status : record.status = response.status.code

/-- What comes of what is asked, and the records that it leaves. -/
inductive Daemon.Replies (d : Daemon) (ask : Ask) :
    Except ClientError Called → List Record → Prop where
  /-- Nobody is reached. -/
  | unreached {fault : SystemError} (hreach : d.host.reach ask.address = .error fault) :
      Replies d ask (.error (.connect ask.address fault)) []
  /-- No request can be built. -/
  | unbuilt {fault : RequestError} (hserves : d.Serves ask.address)
      (hrouted : d.routed ask = .error fault) :
      Replies d ask (.error (.request ("failed to build request: " ++ fault.message))) []
  /-- The reply is what a router gives, and one record tells of it. -/
  | answered {response : Response} {record : Record} (hserves : d.Serves ask.address)
      (hclean : ¬ ask.HoldsDelete) (hfits : ¬ ask.Outgrows) (hrouted : d.routed ask = .ok response)
      (hrecord : record.TellsOfAsk d.identity ask response) :
      Replies d ask (.ok (.reply (.ofResponse response))) [record]
  /-- What is sent is too long, and is refused. -/
  | refused (hserves : d.Serves ask.address) (hclean : ¬ ask.HoldsDelete)
      (houtgrows : ask.Outgrows) :
      Replies d ask (.ok (.reply ⟨HeadFault.answerStatus (.target .tooLong), none, []⟩)) []
  /-- What is sent holds an octet that no request line may hold, and is refused. -/
  | malformed (hserves : d.Serves ask.address) (hdelete : ask.HoldsDelete) :
      Replies d ask (.ok (.reply ⟨HeadFault.answerStatus .header, none, []⟩)) []

/-- What comes of what is asked, one after another, and the records that are left altogether. -/
inductive Daemon.RepliesAll (d : Daemon) :
    List Ask → List (Except ClientError Called) → List Record → Prop where
  | nil : RepliesAll d [] [] []
  | cons {ask : Ask} {result : Except ClientError Called} {records : List Record}
      {asks : List Ask} {results : List (Except ClientError Called)} {later : List Record}
      (hreplies : d.Replies ask result records) (hlater : RepliesAll d asks results later) :
      RepliesAll d (ask :: asks) (result :: results) (records ++ later)

/-! ## What a router gives -/

namespace Daemon

variable {d : Daemon} {ask : Ask}

theorem routed_of_parse {target : Target}
    (h : Target.parse (Utf8.octets ask.path) ask.grammar = .ok target) :
    d.routed ask = .ok (d.service.handle ⟨ask.method, target, []⟩).1 := by
  have hbuild : ask.draft.build ask.grammar = .ok ⟨ask.method, target, []⟩ := by
    simp only [Draft.build, Request.build, Ask.draft, Method.ofName?_name, h]
    rfl
  rw [routed, Application.send, hbuild]

theorem routed_of_fault {fault : TargetError}
    (h : Target.parse (Utf8.octets ask.path) ask.grammar = .error fault) :
    d.routed ask = .error (.target fault) := by
  have hbuild : ask.draft.build ask.grammar = .error (.target fault) := by
    simp only [Draft.build, Request.build, Ask.draft, Method.ofName?_name, h]
  rw [routed, Application.send, hbuild]

end Daemon

/-! ## What the replies are -/

namespace Daemon.Replies

variable {d : Daemon} {ask : Ask} {result : Except ClientError Called} {records : List Record}

/-- A request that a router answers, and that does not become too long, gets that answer. -/
theorem of_routed (h : d.Replies ask result records) (hserves : d.Serves ask.address)
    (hclean : ¬ ask.HoldsDelete) (hfits : ¬ ask.Outgrows) {response : Response}
    (hrouted : d.routed ask = .ok response) :
    result = .ok (.reply (.ofResponse response)) ∧
      ∃ record, records = [record] ∧ record.TellsOfAsk d.identity ask response := by
  cases h with
  | unreached hreach =>
      obtain ⟨listener, hreached, -⟩ := hserves
      cases hreached.symm.trans hreach
  | unbuilt _ hfault => cases hrouted.symm.trans hfault
  | answered _ _ _ hother hrecord =>
      cases hrouted.symm.trans hother
      exact ⟨rfl, _, rfl, hrecord⟩
  | refused _ _ houtgrows => exact absurd houtgrows hfits
  | malformed _ hdelete => exact absurd hdelete hclean

theorem of_outgrows (h : d.Replies ask result records) (hserves : d.Serves ask.address)
    (hclean : ¬ ask.HoldsDelete) (houtgrows : ask.Outgrows) :
    result = .ok (.reply ⟨HeadFault.answerStatus (.target .tooLong), none, []⟩) ∧
      records = [] := by
  cases h with
  | unreached hreach =>
      obtain ⟨listener, hreached, -⟩ := hserves
      cases hreached.symm.trans hreach
  | unbuilt _ hfault =>
      obtain ⟨target, htarget, -⟩ := houtgrows
      cases (routed_of_parse htarget).symm.trans hfault
  | answered _ _ hfits _ _ => exact absurd houtgrows hfits
  | refused => exact ⟨rfl, rfl⟩
  | malformed _ hdelete => exact absurd hdelete hclean

end Daemon.Replies

theorem Daemon.RepliesAll.single {d : Daemon} {ask : Ask}
    {results : List (Except ClientError Called)} {records : List Record}
    (h : d.RepliesAll [ask] results records) :
    ∃ result, results = [result] ∧ d.Replies ask result records := by
  cases h with
  | cons hreplies hlater =>
      cases hlater
      rw [List.append_nil]
      exact ⟨_, rfl, hreplies⟩

/-! ## Clients that are not connected -/

/-- What fails in the end has failed before, or fails then. -/
theorem bind_ne_error {ε α β : Type} {result : Except ε α} {next : α → Except ε β} {failure : ε}
    (h : result ≠ .error failure) (hnext : ∀ value, next value ≠ .error failure) :
    result.bind next ≠ .error failure := by
  cases result with
  | error other =>
      intro hsame
      cases hsame
      exact h rfl
  | ok value => exact hnext value

namespace Client

variable {address : Address} {limit : Duration}

theorem call_of_error (address : Address) (limit : Duration) (fault : SystemError) (call : Call) :
    Client.call address limit (.error fault) call =
      ⟨.error (.connect address fault), none, []⟩ := by
  cases call <;> rfl

theorem receive_ne_connect (method : Method) (octets : Octets) (place : Address)
    (source : SystemError) : receive method octets ≠ .error (.connect place source) := by
  unfold receive
  split
  · rintro ⟨⟩
  · split <;> rintro ⟨⟩

theorem request_ne_connect (peer : Peer) (method : Method) (path : String)
    (grammar : Target.Grammar) (place : Address) (source : SystemError) :
    (request address limit (.ok peer) method path grammar).result ≠
      .error (.connect place source) := by
  unfold request
  dsimp only
  split
  · rintro ⟨⟩
  split
  next hbuild =>
    unfold requestFor at hbuild
    split at hbuild
    · cases hbuild
    · cases hbuild
      rintro ⟨⟩
  · cases peer with
    | silent => rintro ⟨⟩
    | answers respond => exact receive_ne_connect method _ place source

/-- A client that is connected does not fail to connect. -/
theorem call_ne_connect (peer : Peer) (call : Call) (place : Address) (source : SystemError) :
    (Client.call address limit (.ok peer) call).result ≠ .error (.connect place source) := by
  have hstatus : ∀ reply, expectOk reply ≠ .error (.connect place source) := by
    intro reply
    unfold expectOk
    split <;> rintro ⟨⟩
  have hbody : ∀ {α : Type} (label : String) (decode : Octets → Except Json.Fault α) reply,
      expectBody label decode reply ≠ .error (.connect place source) := by
    intro α label decode reply
    unfold expectBody
    split <;> rintro ⟨⟩
  cases call with
  | health =>
      apply bind_ne_error
      · apply bind_ne_error
        · exact bind_ne_error (request_ne_connect peer _ _ _ place source) hstatus
        · exact hbody "health" Health.decode
      · rintro value ⟨⟩
  | info =>
      apply bind_ne_error
      · apply bind_ne_error
        · exact bind_ne_error (request_ne_connect peer _ _ _ place source) hstatus
        · exact hbody "info" Info.decode
      · rintro value ⟨⟩
  | request method path grammar =>
      apply bind_ne_error (request_ne_connect peer method path grammar place source)
      rintro value ⟨⟩

end Client

namespace Daemon

variable {d : Daemon} {ask : Ask} {address : Address}

theorem report_nil (d : Daemon) : d.report [] = d := by
  rw [report, List.append_nil]

/-- Where nobody is reached, a call fails to connect, and the daemon is as it was. -/
theorem call_of_unreached {fault : SystemError} (h : d.host.reach address = .error fault)
    (limit : Duration) (call : Client.Call) :
    d.call address limit call = (.error (.connect address fault), d) := by
  have hpeer : d.peerAt address = .error fault := by
    rw [peerAt, h]
  have hmade := Client.call_of_error address limit fault call
  simp only [Daemon.call, hpeer, Except.map, hmade, receive, report_nil]

/-- A call that fails to connect leaves the daemon as it was. -/
theorem call_of_connect {limit : Duration} {call : Client.Call} {place : Address}
    {source : SystemError}
    (h : (d.call address limit call).1 = .error (.connect place source)) :
    (d.call address limit call).2 = d := by
  cases hreach : d.host.reach address with
  | error fault => rw [call_of_unreached hreach]
  | ok listener =>
      have hpeer : ∃ peer, d.peerAt address = .ok (listener, peer) := by
        rw [peerAt, hreach]
        dsimp only
        split
        · exact ⟨_, rfl⟩
        · exact ⟨_, rfl⟩
      obtain ⟨peer, hpeer⟩ := hpeer
      rw [Daemon.call, hpeer] at h
      exact absurd h (Client.call_ne_connect peer call place source)

/-! ## Clients that are connected -/

/-- A client whose request cannot be built sends nothing, and fails. -/
theorem request_of_fault {fault : TargetError} {limit : Duration}
    (h : Target.parse (Utf8.octets ask.path) ask.grammar = .error fault)
    (connected : Except SystemError Client.Peer) :
    (Client.request address limit connected ask.method ask.path ask.grammar).sent = none := by
  unfold Client.request Client.requestFor
  cases connected with
  | error source => rfl
  | ok peer =>
      rw [h]
      dsimp only
      split <;> rfl

/-- Where no request can be built, nothing but the log of the client is changed. -/
theorem ask_of_fault {fault : TargetError}
    (h : Target.parse (Utf8.octets ask.path) ask.grammar = .error fault) :
    ∃ events, (d.ask ask).2 = d.recorded [] events := by
  refine ⟨(Client.call ask.address ask.limit ((d.peerAt ask.address).map (·.2))
    (.request ask.method ask.path ask.grammar)).events, ?_⟩
  rw [Daemon.ask, Daemon.call, receive]
  · rfl
  · intro listener peer sent _ hsome
    change (Client.request _ _ _ _ _ _).sent = _ at hsome
    rw [request_of_fault h] at hsome
    cases hsome

/-- Where the daemon serves, a request that cannot be built fails for its target. -/
theorem result_of_fault {fault : TargetError} (hserves : d.Serves ask.address)
    (htime : ask.limit.nanos ≠ 0)
    (h : Target.parse (Utf8.octets ask.path) ask.grammar = .error fault) :
    (d.ask ask).1 = .error (.request ("failed to build request: " ++ fault.message)) := by
  rw [Daemon.ask, call_of_serves hserves]
  change (Client.request _ _ _ _ _ _).result.bind _ = _
  simp only [Client.request, if_neg htime, Client.requestFor, h]
  rfl

theorem recorded_report (d : Daemon) (records : List Record) (front later : List Log.Event) :
    (d.report front).recorded records later = d.recorded records (front ++ later) := by
  rw [recorded, recorded, ← List.append_assoc]
  rfl

/-- What comes to a listener that is served leaves the records of its traffic. -/
theorem deliver_of_served {listener : Listener} (h : d.isServed listener = true) (sent : Octets) :
    d.deliver listener sent = d.recorded (serveConnection d.service sent).records
      (d.sink.recordAll (serveConnection d.service sent).records).2 := by
  rw [deliver, if_pos h]
  rfl

/-- Where the daemon serves, a request that can be built is served at once. -/
theorem ask_of_parse {target : Target} (hserves : d.Serves ask.address)
    (htime : ask.limit.nanos ≠ 0)
    (h : Target.parse (Utf8.octets ask.path) ask.grammar = .ok target) :
    let traffic := serveConnection d.service
      (RequestHead.write (Client.requestOf ask.method target))
    (d.ask ask).1 = (Client.receive ask.method traffic.octets).map .reply ∧
      ∃ events, (d.ask ask).2 = d.recorded traffic.records events := by
  intro traffic
  obtain ⟨listener, hreach, hserved⟩ := hserves
  have hpeer : d.peerAt ask.address = .ok (listener, d.peer) := by
    rw [peerAt, hreach]
    exact if_pos hserved
  have hmade :
      Client.request ask.address ask.limit (.ok d.peer) ask.method ask.path ask.grammar =
      ⟨Client.receive ask.method traffic.octets,
        some (RequestHead.write (Client.requestOf ask.method target)),
        [Client.sendingEvent ask.method ask.path]⟩ := by
    simp only [Client.request, if_neg htime, Client.requestFor_of_parse h, peer]
    rfl
  rw [Daemon.ask, Daemon.call, hpeer]
  constructor
  · change (Client.request _ _ (.ok d.peer) ask.method ask.path ask.grammar).result.bind _ = _
    rw [hmade]
    cases Client.receive ask.method traffic.octets <;> rfl
  · have hdelivered := deliver_of_served (d := d.report [Client.sendingEvent ask.method ask.path])
      hserved (RequestHead.write (Client.requestOf ask.method target))
    rw [recorded_report] at hdelivered
    refine ⟨_, Eq.trans ?_ hdelivered⟩
    change (d.report (Client.request _ _ (.ok d.peer) ask.method ask.path
      ask.grammar).events).receive (.ok (listener, d.peer))
        (Client.Exchange.andThen (Client.request ask.address ask.limit (.ok d.peer) ask.method
          ask.path ask.grammar) _) = _
    rw [hmade]
    rfl

/-! ## One request -/

theorem length_body_handle {service : Service}
    (h : ∀ route, (Utf8.octets (service.body route)).length ≤ maxBodyLength) (request : Request) :
    (service.handle request).1.body.length ≤ maxBodyLength := by
  by_cases hroute : ∃ route, Service.Asks request route
  · obtain ⟨route, hroute⟩ := hroute
    rw [service.handle_of_asks hroute]
    exact h route
  · rw [service.handle_of_not_asks fun route hasked => hroute ⟨route, hasked⟩]
    exact Nat.zero_le _

/-- What starts with a slash is sent as it is but for its fragment, and recorded so. -/
theorem recorded_sent {text : String} {grammar : Target.Grammar} {target : Target}
    (h : Target.parse (Utf8.octets text) grammar = .ok target)
    (hslash : text.toList.head? = some '/') : target.sent.recorded = withoutFragment text := by
  obtain ⟨later, htext⟩ := List.head?_eq_some_iff.mp hslash
  have hoctets : (Utf8.octets text).head? = some Target.slash := by
    rw [Utf8.octets, htext, Utf8.encode_cons]
    rfl
  obtain ⟨path, query, rfl⟩ := Target.origin_of_parse hoctets h
  have hshown : (withoutFragment text).toList.head? = some '/' := by
    rw [withoutFragment, String.toList_ofList, htext, List.takeWhile_cons_of_pos (by decide)]
    rfl
  exact (recordedAs_of_parse h).eq_of_head? hshown

/-- What can be sent outgrows its bound where it is too long as it is written. -/
theorem outgrows_iff {target : Target}
    (h : Target.parse (Utf8.octets ask.path) ask.grammar = .ok target) :
    ask.Outgrows ↔ ¬ (Utf8.octets target.wire).length ≤ Target.maxLength := by
  rw [Target.length_wire_le_iff h, not_not, ← octets_withoutFragment]
  constructor
  · rintro ⟨other, hother, houtgrows⟩
    cases h.symm.trans hother
    exact houtgrows
  · intro houtgrows
    exact ⟨target, h, houtgrows⟩

/-- What can be sent holds the delete character where it is written so. -/
theorem holdsDelete_iff {target : Target}
    (h : Target.parse (Utf8.octets ask.path) ask.grammar = .ok target) :
    ask.HoldsDelete ↔ Target.delete ∈ Utf8.octets target.wire := by
  rw [Target.delete_mem_wire_iff h, ← octets_withoutFragment]
  constructor
  · rintro ⟨other, hother, hdelete⟩
    exact hdelete
  · exact fun hdelete => ⟨target, h, hdelete⟩

/-- A request that can be built is answered where the daemon serves, or refused if it is too long as
it is written, or holds what no request line may hold. -/
theorem replies_of_parse {target : Target} (hlength : ∀ route,
      (Utf8.octets (d.service.body route)).length ≤ maxBodyLength)
    (hserves : d.Serves ask.address) (hfits : ask.Fits)
    (h : Target.parse (Utf8.octets ask.path) ask.grammar = .ok target) :
    ∃ records events, d.Replies ask (d.ask ask).1 records ∧
      (d.ask ask).2 = d.recorded records events := by
  obtain ⟨hresult, events, hevents⟩ := ask_of_parse hserves hfits.time h
  have hroom := hfits.room target h
  by_cases hdelete : Target.delete ∈ Utf8.octets target.wire
  · rw [Client.serveConnection_of_delete d.service h hdelete hroom] at hevents hresult
    refine ⟨[], events, ?_, hevents⟩
    have hreceive := Client.receive_refusal ask.method .header
    rw [Traffic.octets, List.flatMap_singleton, hreceive] at hresult
    rw [hresult]
    exact .malformed hserves ((holdsDelete_iff h).mpr hdelete)
  have hclean : ¬ ask.HoldsDelete := fun hholds => hdelete ((holdsDelete_iff h).mp hholds)
  by_cases hwire : (Utf8.octets target.wire).length ≤ Target.maxLength
  · rw [Client.serveConnection_requestOf d.service h hdelete hwire hroom] at hevents
    rw [Client.receive_requestOf d.service h hdelete hwire hroom []
      (length_body_handle hlength _)] at hresult
    refine ⟨_, events, ?_, hevents⟩
    rw [hresult]
    refine .answered hserves hclean (fun houtgrows => (outgrows_iff h).mp houtgrows hwire)
      (routed_of_parse h) ?_
    have hsame : (d.service.handle (Client.requestOf ask.method target.sent)).1 =
        (d.service.handle ⟨ask.method, target, []⟩).1 :=
      d.service.handle_congr rfl target.path_sent target.query_sent
    rw [Service.handle_snd, hsame]
    exact ⟨rfl, rfl, recorded_sent h, rfl⟩
  · rw [Client.serveConnection_of_tooLong d.service h hdelete (Nat.lt_of_not_le hwire) hroom]
      at hevents hresult
    refine ⟨[], events, ?_, hevents⟩
    have hreceive := Client.receive_refusal ask.method (.target .tooLong)
    rw [Traffic.octets, List.flatMap_singleton, hreceive] at hresult
    rw [hresult]
    exact .refused hserves hclean ((outgrows_iff h).mpr hwire)

/-- What is asked of a daemon that serves, or that is not reached, is replied to as it should be. -/
theorem replies_of_ask (hlength : ∀ route,
      (Utf8.octets (d.service.body route)).length ≤ maxBodyLength)
    (hask : (∃ fault, d.host.reach ask.address = .error fault) ∨
      (d.Serves ask.address ∧ ask.Fits)) :
    ∃ records events, d.Replies ask (d.ask ask).1 records ∧
      (d.ask ask).2 = d.recorded records events := by
  rcases hask with ⟨fault, hreach⟩ | ⟨hserves, hfits⟩
  · have hasked : d.ask ask = (.error (.connect ask.address fault), d) :=
      call_of_unreached hreach ask.limit _
    refine ⟨[], [], ?_, ?_⟩
    · rw [hasked]
      exact .unreached hreach
    · rw [hasked, recorded, List.append_nil]
      rfl
  · cases hparse : Target.parse (Utf8.octets ask.path) ask.grammar with
    | error fault =>
        obtain ⟨events, hevents⟩ := ask_of_fault (d := d) hparse
        refine ⟨[], events, ?_, hevents⟩
        rw [result_of_fault hserves hfits.time hparse]
        exact .unbuilt hserves (routed_of_fault hparse)
    | ok target => exact replies_of_parse hlength hserves hfits hparse

/-! ## Requests one after another -/

/-- What a router gives has nothing to do with what was recorded. -/
theorem routed_recorded (d : Daemon) (records : List Record) (events : List Log.Event)
    (ask : Ask) : (d.recorded records events).routed ask = d.routed ask :=
  Application.result_send ask.grammar _ d.sink ask.draft

/-- What is recorded changes no reply. -/
theorem Replies.of_recorded {records left : List Record} {events : List Log.Event}
    {result : Except ClientError Called}
    (h : (d.recorded records events).Replies ask result left) : d.Replies ask result left := by
  cases h with
  | unreached hreach => exact .unreached hreach
  | unbuilt hserves hrouted =>
      rw [routed_recorded] at hrouted
      exact .unbuilt hserves hrouted
  | answered hserves hclean hfits hrouted hrecord =>
      rw [routed_recorded] at hrouted
      exact .answered hserves hclean hfits hrouted hrecord
  | refused hserves hclean houtgrows => exact .refused hserves hclean houtgrows
  | malformed hserves hdelete => exact .malformed hserves hdelete

theorem RepliesAll.of_recorded {records left : List Record} {events : List Log.Event}
    {asks : List Ask} {results : List (Except ClientError Called)}
    (h : (d.recorded records events).RepliesAll asks results left) :
    d.RepliesAll asks results left := by
  induction h with
  | nil => exact .nil
  | cons hreplies _ ih => exact .cons hreplies.of_recorded ih

theorem recorded_recorded (d : Daemon) (records later : List Record)
    (events more : List Log.Event) :
    (d.recorded records events).recorded later more =
      d.recorded (records ++ later) (events ++ more) := by
  simp only [recorded, Sink.recordAll_append, List.append_assoc]

/-- Whatever was asked before, each reply is what it would be alone, and the records that are left
are all that has changed but for the log. -/
theorem replies_of_askAll {asks : List Ask} (hlength : ∀ route,
      (Utf8.octets (d.service.body route)).length ≤ maxBodyLength)
    (hasks : ∀ ask ∈ asks, (∃ fault, d.host.reach ask.address = .error fault) ∨
      (d.Serves ask.address ∧ ask.Fits)) :
    ∃ records events, d.RepliesAll asks (d.askAll asks).1 records ∧
      (d.askAll asks).2 = d.recorded records events := by
  induction asks generalizing d with
  | nil =>
      refine ⟨[], [], .nil, ?_⟩
      rw [recorded, List.append_nil]
      rfl
  | cons ask rest ih =>
      obtain ⟨records, events, hreplies, hleft⟩ :=
        replies_of_ask hlength (hasks ask List.mem_cons_self)
      -- The daemon that is asked next differs in its records and its log alone.
      obtain ⟨later, more, hlater, hend⟩ := ih (d := d.recorded records events) hlength
        fun other hmem => hasks other (List.mem_cons_of_mem _ hmem)
      refine ⟨records ++ later, events ++ more, ?_, ?_⟩
      · rw [askAll, hleft]
        exact .cons hreplies hlater.of_recorded
      · rw [askAll, hleft]
        change (askAll (d.recorded records events) rest).2 = _
        rw [hend, recorded_recorded]

end Daemon

end Beacon
