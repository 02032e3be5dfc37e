import Beacon.Proofs.Http.Exchange
import Beacon.Proofs.Http.Wire
import Beacon.Proofs.Routing

/-!
# What a client is answered

A client writes the request that it was asked to make, a service reads and answers it, and the
client reads the answer. What comes out is what the service gives for the request itself, unless the
root that was added to its target makes it too long.
-/

namespace Beacon

open Http

namespace Client

/-- The response to a request as a client sees it. -/
def Reply.ofResponse (response : Response) : Reply :=
  ⟨response.status, contentType? response.headers, response.body⟩

/-! ## What is sent -/

def requestOf (method : Method) (target : Target) : Request :=
  ⟨method, target, [.ofText "host" "localhost"]⟩

variable {method : Method} {path : String} {grammar : Target.Grammar} {target : Target}

theorem requestFor_of_parse (h : Target.parse (Utf8.octets path) grammar = .ok target) :
    requestFor method path grammar = .ok (requestOf method target) := by
  rw [requestFor, h]
  rfl

theorem isSendable_requestOf {octets : Octets} (h : Target.parse octets grammar = .ok target)
    (hclean : Target.delete ∉ Utf8.octets target.wire) :
    (requestOf method target).IsSendable where
  nonempty := Target.wire_ne_empty h
  allowed := fun octet hmem => Target.isTargetOctet_wire h octet hmem fun hdelete =>
    absurd (hdelete ▸ hmem) hclean
  headers := by
    have hhost : (Header.ofText "host" "localhost").IsSendable :=
      ⟨by decide, by decide, by decide, by decide, by decide⟩
    intro header hmem
    rw [List.mem_singleton.mp hmem]
    exact hhost
  room := Nat.le_add_left 1 99

theorem isWhole_requestOf (method : Method) (target : Target) :
    RequestHead.IsWhole ⟨.oneOne, requestOf method target⟩ where
  version := rfl
  coding := by simp only [requestOf, List.mem_singleton]; rintro header rfl; decide
  length := by simp only [requestOf, List.mem_singleton]; rintro header rfl; decide
  connection := by simp only [requestOf, List.mem_singleton]; rintro header rfl; decide

/-! ## What is read back -/

theorem ofResponse_keepAlive (response : Response) :
    Answer.ofResponse .oneOne true response =
      ⟨⟨.oneOne, response.status, response.headers⟩, response.body⟩ := by
  have hnone : connectionHeaders .oneOne true = [] := rfl
  rw [Answer.ofResponse, hnone, List.append_nil]

/-- What is added to a response before its length can be sent. -/
theorem isSendable_notice (service : Service) (request : Request) :
    ∀ header ∈ service.routes.notice request, header.IsSendable ∧
      header.name ≠ Header.transferEncoding ∧ header.name ≠ Header.contentLength := by
  have hallow : (Header.ofText Header.allow "GET,HEAD").IsSendable :=
    ⟨by decide, by decide, by decide, by decide, by decide⟩
  rcases service.routes.notice_cases request with hnotice | hnotice
  · rw [hnotice]
    rintro header ⟨⟩
  · rw [hnotice]
    intro header hmem
    rw [List.mem_singleton.mp hmem]
    exact ⟨hallow, by decide, by decide⟩

/-- A client that is answered by a service sees the response. -/
theorem receive_handle (service : Service) (request : Request)
    (hlength : (service.handle request).1.body.length ≤ maxBodyLength) :
    receive request.method (Answer.ofResponse .oneOne true (service.handle request).1).octets =
      .ok (.ofResponse (service.handle request).1) := by
  rw [ofResponse_keepAlive]
  by_cases hroute : ∃ route, Service.Asks request route
  · obtain ⟨route, hroute⟩ := hroute
    have htype : (Header.ofText Header.contentType "application/json").IsSendable :=
      ⟨by decide, by decide, by decide, by decide, by decide⟩
    have hbare : ¬ (Method.get = .head ∨ (Method.get = .connect ∧ Status.ok.code < 300)) := by
      decide
    rw [service.handle_of_asks hroute] at hlength ⊢
    rw [hroute.1]
    refine receive_stated .get [.ofText Header.contentType "application/json"]
      (fun hnone => absurd hnone hbare) (Nat.le_refl 200)
      (show 200 ≠ 204 ∧ 200 ≠ 304 by decide) ?_ (by decide) hlength
    intro header hmem
    rw [List.mem_singleton.mp hmem]
    exact ⟨htype, by decide, by decide⟩
  · have hnone : ∀ route, ¬ Service.Asks request route := fun route hasked =>
      hroute ⟨route, hasked⟩
    have hroom : (service.routes.notice request).length < maxHeaders := by
      rcases service.routes.notice_cases request with hnotice | hnotice <;> rw [hnotice] <;> decide
    rw [service.handle_of_not_asks hnone]
    exact receive_empty request.method (service.routes.notice request)
      (show 200 ≤ 404 by decide) (show 404 ≠ 204 ∧ 404 ≠ 304 by decide)
      (isSendable_notice service request) hroom

/-- A client that is refused sees the status of the refusal. -/
theorem receive_refusal (method : Method) (fault : HeadFault) :
    receive method (fault.answer .oneOne).octets = .ok ⟨fault.answerStatus, none, []⟩ := by
  have hclose : (Header.ofText Header.connection "close").IsSendable :=
    ⟨by decide, by decide, by decide, by decide, by decide⟩
  have hstatus : 400 ≤ fault.answerStatus.code := by
    unfold HeadFault.answerStatus
    split <;> decide
  have hkind : contentType? [.ofText Header.connection "close",
      .ofText Header.contentLength "0"] = none := by
    decide
  rw [← hkind]
  refine receive_empty method [.ofText Header.connection "close"] (by omega) (by omega) ?_
    (by decide)
  intro header hmem
  rw [List.mem_singleton.mp hmem]
  exact ⟨hclose, by decide, by decide⟩

/-! ## The whole exchange -/

/-- A request that fits is answered for what was asked, and recorded for what was sent. -/
theorem serveConnection_requestOf (service : Service)
    (hparse : Target.parse (Utf8.octets path) grammar = .ok target)
    (hclean : Target.delete ∉ Utf8.octets target.wire)
    (hwire : (Utf8.octets target.wire).length ≤ Target.maxLength)
    (hhead : (RequestHead.write (requestOf method target)).length ≤ maxHeadLength) :
    serveConnection service (RequestHead.write (requestOf method target)) =
      ⟨[.ofResponse .oneOne true (service.handle (requestOf method target.sent)).1],
        [(service.handle (requestOf method target.sent)).2]⟩ := by
  have hsendable : (requestOf method target).IsSendable := isSendable_requestOf hparse hclean
  have hread := read_write_request hsendable []
  rw [List.append_nil, show (requestOf method target).target = target from rfl,
    ← Target.parse_of_delete_not_mem grammar hclean, Target.parse_wire hparse hwire] at hread
  have hmore : RequestHead.read (RequestHead.write (requestOf method target)) ≠ .more := by
    rw [hread]
    rintro ⟨⟩
  exact serveConnection_of_read ((readAfter_write firstLook hmore hhead).trans hread)
    (isWhole_requestOf method target.sent)

/-- What a client is answered is what the service gives for the method and the target that it was
given, whatever other headers the request has. -/
theorem receive_requestOf (service : Service)
    (hparse : Target.parse (Utf8.octets path) grammar = .ok target)
    (hclean : Target.delete ∉ Utf8.octets target.wire)
    (hwire : (Utf8.octets target.wire).length ≤ Target.maxLength)
    (hhead : (RequestHead.write (requestOf method target)).length ≤ maxHeadLength)
    (headers : List Header)
    (hlength : (service.handle ⟨method, target, headers⟩).1.body.length ≤ maxBodyLength) :
    receive method
        (serveConnection service (RequestHead.write (requestOf method target))).octets =
      .ok (.ofResponse (service.handle ⟨method, target, headers⟩).1) := by
  have hsame : (service.handle (requestOf method target.sent)).1 =
      (service.handle ⟨method, target, headers⟩).1 :=
    service.handle_congr rfl target.path_sent target.query_sent
  rw [← hsame] at hlength ⊢
  rw [serveConnection_requestOf service hparse hclean hwire hhead, Traffic.octets,
    List.flatMap_singleton]
  exact receive_handle service (requestOf method target.sent) hlength

/-- A request whose target has become too long is refused, and leaves no record. -/
theorem serveConnection_of_tooLong (service : Service)
    (hparse : Target.parse (Utf8.octets path) grammar = .ok target)
    (hclean : Target.delete ∉ Utf8.octets target.wire)
    (hwire : Target.maxLength < (Utf8.octets target.wire).length)
    (hhead : (RequestHead.write (requestOf method target)).length ≤ maxHeadLength) :
    serveConnection service (RequestHead.write (requestOf method target)) =
      ⟨[HeadFault.answer .oneOne (.target .tooLong)], []⟩ := by
  have hsendable : (requestOf method target).IsSendable := isSendable_requestOf hparse hclean
  have hread := read_write_request hsendable []
  have htooLong : Target.parse (Utf8.octets target.wire) = .error .tooLong := by
    rw [Target.parse.eq_def, if_pos hwire]
  rw [List.append_nil, show (requestOf method target).target = target from rfl, htooLong]
    at hread
  exact serveConnection_write_of_refused service hread (by rintro ⟨⟩) hhead

/-- A request whose target holds the delete character is refused, and leaves no record. -/
theorem serveConnection_of_delete (service : Service)
    (hparse : Target.parse (Utf8.octets path) grammar = .ok target)
    (hdelete : Target.delete ∈ Utf8.octets target.wire)
    (hhead : (RequestHead.write (requestOf method target)).length ≤ maxHeadLength) :
    serveConnection service (RequestHead.write (requestOf method target)) =
      ⟨[HeadFault.answer .oneOne .header], []⟩ := by
  have hmem : Target.delete ∈ Utf8.octets (requestOf method target).target.wire := hdelete
  have hread := read_write_of_stop hmem
    (fun octet hmem hne => Target.isTargetOctet_wire hparse octet hmem fun heq => absurd heq hne)
    (by decide) (by decide) []
  rw [List.append_nil] at hread
  exact serveConnection_write_of_refused service hread (by rintro ⟨⟩) hhead

end Client

end Beacon
