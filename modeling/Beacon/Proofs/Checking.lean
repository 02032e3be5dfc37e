import Beacon.Proofs.Answers
import Beacon.Proofs.Bodies
import Beacon.Proofs.Probing

/-!
# What a check concludes

A check asks once and concludes in stages: whether there is an answer, whether its status is that of
success, whether its body tells a health, and whether that is the health of the expected service.
The first stage that fails is reported. A check that passes prints the health that it was told, in
the compact form. What the health says of itself is printed and not weighed: a check passes
whatever text is stated as the status of the service.
-/

namespace Beacon

/-! ## Stages -/

namespace Check

def answer (check : Check) (connected : Except SystemError Client.Peer) :
    Except ClientError Client.Reply :=
  (Client.request check.address Client.defaultLimit connected .get "/health").result

/-- What a check concludes from the answer to its request, after some events: the first stage that
fails is reported. -/
inductive Concludes (check : Check) (events : List Log.Event) :
    Except ClientError Client.Reply → Outcome → Prop
  /-- Nobody is connected to, or no answer comes that can be read. -/
  | unanswered (cause : ClientError) :
      Concludes check events (.error cause)
        (check.commission.fail events (.probe check.address cause))
  /-- The status is not that of success, whatever the body is. -/
  | refused {reply : Client.Reply} (hstatus : reply.status ≠ .ok) :
      Concludes check events (.ok reply)
        (check.commission.fail events (.probe check.address (.status reply.status)))
  /-- The body tells no health. -/
  | undecoded {reply : Client.Reply} {fault : Json.Fault} (hstatus : reply.status = .ok)
      (hbody : Health.decode reply.body = .error fault) :
      Concludes check events (.ok reply)
        (check.commission.fail events
          (.probe check.address (.parse ("health: " ++ fault.message reply.body))))
  /-- The health is that of another service. -/
  | misnamed {reply : Client.Reply} {health : Health} (hstatus : reply.status = .ok)
      (hbody : Health.decode reply.body = .ok health)
      (hname : health.service ≠ check.commission.identity.name) :
      Concludes check events (.ok reply)
        (check.commission.fail events
          (.otherService check.address health.service check.commission.identity.name))
  | passed {reply : Client.Reply} {health : Health} (hstatus : reply.status = .ok)
      (hbody : Health.decode reply.body = .ok health)
      (hname : health.service = check.commission.identity.name) :
      Concludes check events (.ok reply) (check.commission.succeed events [health.encode])

variable {check : Check} {events : List Log.Event} {outcome : Outcome}

theorem outcome_of_error {exchange : Client.Exchange Health} {cause : ClientError}
    (h : exchange.result = .error cause) :
    check.outcome exchange =
      check.commission.fail (check.events ++ exchange.events) (.probe check.address cause) := by
  rw [Check.outcome, h]
  rfl

/-- The stages of a check follow those of its exchange. -/
theorem concludes_run (check : Check) (connected : Except SystemError Client.Peer) :
    check.Concludes (check.events ++ (check.exchange connected).events) (check.answer connected)
      (check.run connected) := by
  have hresult : (check.exchange connected).result =
      ((check.answer connected).bind Client.expectOk).bind
        (Client.expectBody "health" Health.decode) := rfl
  rw [run]
  cases hanswer : check.answer connected with
  | error cause =>
    have hfails : (check.exchange connected).result = .error cause := by rw [hresult, hanswer]; rfl
    rw [outcome_of_error hfails]
    exact .unanswered cause
  | ok reply =>
    rw [hanswer] at hresult
    change _ = (Client.expectOk reply).bind _ at hresult
    by_cases hstatus : reply.status = .ok
    case neg =>
      rw [Client.expectOk, if_neg hstatus] at hresult
      rw [outcome_of_error hresult]
      exact .refused hstatus
    rw [Client.expectOk, if_pos hstatus] at hresult
    change _ = Client.expectBody "health" Health.decode reply at hresult
    cases hbody : Health.decode reply.body with
    | error fault =>
      rw [Client.expectBody, hbody] at hresult
      rw [outcome_of_error hresult]
      exact .undecoded hstatus hbody
    | ok health =>
      rw [Client.expectBody, hbody] at hresult
      by_cases hname : health.service = check.commission.identity.name
      · rw [outcome_of_expected hresult hname]
        exact .passed hstatus hbody hname
      · rw [outcome_of_other hresult hname]
        exact .misnamed hstatus hbody hname

/-- A check passes exactly if it gets to its last stage. -/
theorem Concludes.status_eq_zero_iff {answer : Except ClientError Client.Reply}
    (h : check.Concludes events answer outcome) :
    outcome.status = 0 ↔ ∃ reply health, answer = .ok reply ∧ reply.status = .ok ∧
      Health.decode reply.body = .ok health ∧ health.service = check.commission.identity.name := by
  cases h with
  | unanswered cause => exact ⟨by rintro ⟨⟩, by rintro ⟨_, _, ⟨⟩, _⟩⟩
  | refused hstatus => exact ⟨by rintro ⟨⟩, by rintro ⟨_, _, ⟨⟩, hok, _⟩; exact absurd hok hstatus⟩
  | undecoded hstatus hbody =>
    exact ⟨by rintro ⟨⟩, by rintro ⟨_, _, ⟨⟩, _, hhealth, _⟩; cases hbody.symm.trans hhealth⟩
  | misnamed hstatus hbody hname =>
    refine ⟨by rintro ⟨⟩, ?_⟩
    rintro ⟨_, _, ⟨⟩, _, hhealth, hexpected⟩
    cases hbody.symm.trans hhealth
    exact absurd hexpected hname
  | passed hstatus hbody hname => exact ⟨fun _ => ⟨_, _, rfl, hstatus, hbody, hname⟩, fun _ => rfl⟩

/-- A check that is told the health of the expected service passes and prints it. -/
theorem Concludes.eq_of_told {reply : Client.Reply} {health : Health}
    (h : check.Concludes events (.ok reply) outcome) (hstatus : reply.status = .ok)
    (hbody : Health.decode reply.body = .ok health)
    (hname : health.service = check.commission.identity.name) :
    outcome = check.commission.succeed events [health.encode] := by
  cases h with
  | refused hrefused => exact absurd hstatus hrefused
  | undecoded _ hundecoded => cases hbody.symm.trans hundecoded
  | misnamed _ htold hother =>
    cases hbody.symm.trans htold
    exact absurd hname hother
  | passed _ htold =>
    cases hbody.symm.trans htold
    rfl

end Check

/-! ## What is printed -/

/-- A text is the one line that tells a health. -/
structure Health.IsPrinted (health : Health) (line : String) : Prop where
  compact : Json.IsCompact line.toList
    [("status", health.status), ("service", health.service)]
  oneLine : ∀ octet ∈ Utf8.octets line, 0x20 ≤ octet.toNat
  decodes : Health.decode (Utf8.octets line) = .ok health

theorem Health.isPrinted_encode (health : Health) : health.IsPrinted health.encode where
  compact := health.isCompact_encode
  oneLine := fun _ hmem => health.isCompact_encode.le_of_mem_encode hmem
  decodes := health.decode_written

/-! ## Checks on a host -/

namespace Check

/-- A check lets nothing pass but the health of the expected service, prints what it lets pass, and
leaves all files alone, those of a host on which somebody answers it as well as those of a host on
which a daemon does. -/
structure IsStrict (check : Check) : Prop where
  concludes : ∀ host found, check.Concludes
    (check.events ++ (check.exchange (found.map (·.2))).events) (check.answer (found.map (·.2)))
      (check.runOn host found).1
  prints : ∀ {host found}, (check.runOn host found).1.status = 0 → ∃ reply health line,
    check.answer (found.map (·.2)) = .ok reply ∧ reply.status = .ok ∧
      Health.decode reply.body = .ok health ∧ health.service = check.commission.identity.name ∧
      health.IsPrinted line ∧
      (check.runOn host found).1 = check.commission.succeed
        (check.events ++ (check.exchange (found.map (·.2))).events) [line]
  files : ∀ host found, (check.runOn host found).2.files = host.files
  filesServed : ∀ d : Daemon, (d.visit check.address check.exchange).2.host.files = d.host.files

theorem files_runOn (check : Check) (host : Host)
    (found : Except SystemError (Listener × Client.Peer)) :
    (check.runOn host found).2.files = host.files := by
  unfold runOn
  dsimp only
  split <;> rfl

theorem isStrict (check : Check) : check.IsStrict where
  concludes host found := check.concludes_run (found.map (·.2))
  prints := by
    intro host found hpass
    have hconcludes := check.concludes_run (found.map (·.2))
    obtain ⟨reply, health, hanswer, hstatus, hbody, hname⟩ := hconcludes.status_eq_zero_iff.mp hpass
    rw [hanswer] at hconcludes
    exact ⟨reply, health, health.encode, hanswer, hstatus, hbody, hname, health.isPrinted_encode,
      hconcludes.eq_of_told hstatus hbody hname⟩
  files := check.files_runOn
  filesServed d := congrArg Estate.files (d.receive_keeps _ _).1

end Check

/-- A failing check never passes. A program that is told to check either ends at once, with a
status that is not zero, or its configuration resolves and it makes a strict check for its own
name. -/
theorem failing_checks_never_pass {invocation : Invocation} {verbosity : Nat}
    (hread : CommandLine.read invocation.arguments = .ok (.run .check verbosity)) :
    (∃ outcome, invocation.start = .ended outcome ∧ outcome.status ≠ 0) ∨
      ∃ check, invocation.start = .checking check ∧
        invocation.resolution.result = .ok check.config ∧
        check.commission.identity = invocation.identity ∧ check.IsStrict := by
  obtain hbroken | ⟨filter, -, hstart⟩ := Invocation.start_of_run hread
  · exact .inl ⟨_, hbroken, by decide⟩
  cases hconfig : invocation.resolution.result with
  | error cause =>
    rw [Invocation.command_of_error hconfig] at hstart
    exact .inl ⟨_, hstart, Nat.one_ne_zero⟩
  | ok config =>
    rw [Invocation.command_check_of_ok hconfig] at hstart
    exact .inr ⟨_, hstart, rfl, rfl, Check.isStrict _⟩

/-- A check that does not get through to anybody fails. -/
theorem unreached_check_fails :
    ∃ check, (commandAt (some [0x73]) .cache "check").start = .checking check ∧
      ∀ fault, (check.runOn (.idle ⟨[], []⟩ true) (.error fault)).1.status ≠ 0 := by
  have hread : CommandLine.read (commandAt (some [0x73]) .cache "check").arguments =
      .ok (.run .check 0) := by
    cbv
  obtain ⟨outcome, hended, -⟩ | ⟨check, hstart, -, -, hstrict⟩ := failing_checks_never_pass hread
  · have hchecking : (commandAt (some [0x73]) .cache "check").start =
        .checking ⟨socketService.commission, socketService.config, socketService.events⟩ := by
      cbv
    cases hchecking.symm.trans hended
  · refine ⟨check, hstart, fun fault hpass => ?_⟩
    obtain ⟨_, _, _, hanswer, -⟩ := hstrict.prints hpass
    cases hanswer

/-! ## What is not weighed -/

/-- The octets of an answer that succeeds, with a body that ends with its connection. -/
def closingAnswer (body : Octets) : Octets :=
  Http.Answer.octets ⟨⟨.oneOne, .ok, []⟩, body⟩

theorem Client.receive_closingAnswer (body : Octets) :
    receive .get (closingAnswer body) = .ok ⟨.ok, none, body⟩ :=
  receive_answer (by rintro header ⟨⟩) (Nat.zero_le _) rfl rfl

namespace Check

theorem answer_of_closing (check : Check) (body : Octets) :
    check.answer (.ok (.answers fun _ => closingAnswer body)) = .ok ⟨.ok, none, body⟩ := by
  have hlimit : Client.defaultLimit.nanos ≠ 0 := by decide
  have hbuild : Client.requestFor .get "/health" = .ok Route.health.request :=
    Route.health.requestFor_path
  rw [answer, Client.request]
  simp only [if_neg hlimit, hbuild]
  exact Client.receive_closingAnswer body

/-- Whoever tells the health of the expected service passes, and it is printed. -/
theorem runOn_of_told (check : Check) (host : Host) (listener : Listener) {body : Octets}
    {health : Health} (hbody : Health.decode body = .ok health)
    (hname : health.service = check.commission.identity.name) :
    (check.runOn host (.ok (listener, .answers fun _ => closingAnswer body))).1 =
      check.commission.succeed
        (check.events ++ (check.exchange (.ok (.answers fun _ => closingAnswer body))).events)
        [health.encode] := by
  have hconcludes := check.concludes_run (.ok (.answers fun _ => closingAnswer body))
  rw [check.answer_of_closing body] at hconcludes
  exact hconcludes.eq_of_told rfl hbody hname

end Check

/-- The text that a health states as its status is not weighed. A check passes exactly if it is
told, in an answer that succeeds, the health of the expected service with whatever text as its
status; and there is an endpoint for every text that a check passes with it. -/
theorem check_passes_any_status_text (check : Check) (host : Host) :
    (∀ found, (check.runOn host found).1.status = 0 ↔ ∃ reply text,
      check.answer (found.map (·.2)) = .ok reply ∧ reply.status = .ok ∧
        Health.decode reply.body = .ok ⟨text, check.commission.identity.name⟩) ∧
    ∀ listener text, ∃ octets events,
      (check.runOn host (.ok (listener, .answers fun _ => octets))).1 =
        check.commission.succeed events [Health.encode ⟨text, check.commission.identity.name⟩] := by
  constructor
  · intro found
    have hconcludes := check.concludes_run (found.map (·.2))
    change (check.run _).status = 0 ↔ _
    rw [hconcludes.status_eq_zero_iff]
    constructor
    · rintro ⟨reply, ⟨text, _⟩, hanswer, hstatus, hbody, rfl⟩
      exact ⟨reply, text, hanswer, hstatus, hbody⟩
    · rintro ⟨reply, text, hanswer, hstatus, hbody⟩
      exact ⟨reply, _, hanswer, hstatus, hbody, rfl⟩
  · intro listener text
    exact ⟨_, _, check.runOn_of_told host listener (Health.decode_written _) rfl⟩

/-- A body that tells the health of a service that is down. -/
def downBody : Octets :=
  Utf8.octets "\x7b\"status\":\"down\",\"service\":\"python-api\"\x7d"

/-- A service that says it is down passes its check. -/
theorem down_passes_check :
    ∃ check, (commandAt (some [0x73]) .api "check").start = .checking check ∧
      check.answer (.ok (.answers fun _ => closingAnswer downBody)) = .ok ⟨.ok, none, downBody⟩ ∧
      Health.decode downBody = .ok ⟨"down", "python-api"⟩ ∧
      (check.runOn (.idle ⟨[], []⟩ true)
        (.ok (.unix 1, .answers fun _ => closingAnswer downBody))).1.status = 0 := by
  have hstart : (commandAt (some [0x73]) .api "check").start =
      .checking ⟨⟨.api, .everywhere .info⟩, ⟨.unix [0x73], "unknown", "unknown"⟩,
        [matchedEvent .socketPath]⟩ := by
    cbv
  have hbody : Health.decode downBody = .ok ⟨"down", "python-api"⟩ := by cbv
  refine ⟨_, hstart, Check.answer_of_closing _ _, hbody, ?_⟩
  rw [Check.runOn_of_told _ _ _ hbody rfl]
  rfl

end Beacon
