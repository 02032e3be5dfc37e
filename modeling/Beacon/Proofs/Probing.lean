import Beacon.Proofs.Configuration
import Beacon.Proofs.Serving

/-!
# Services and their checks

A check looks for a service where an environment puts it. Every transport that an environment
resolves to is bound at one address, which can be told from the transport alone; so a check under
the same port and socket path finds the service, as long as the socket file of the service stands at
its path, and passes if and only if the service has the expected name.
-/

namespace Beacon

/-! ## Programs that are started -/

namespace Invocation

variable {invocation : Invocation}

theorem resolution_of_serving {serving : Serving} (h : invocation.start = .serving serving) :
    invocation.resolution.result = .ok serving.config ∧
      serving.commission.identity = invocation.identity := by
  unfold start at h
  dsimp only at h
  split at h
  · cases h
  · cases h
  · cases h
  · split at h
    next verbosity filter _ =>
      unfold command at h
      dsimp only at h
      split at h
      · cases h
      next config hconfig =>
        split at h
        · cases h
          exact ⟨hconfig, rfl⟩
        · cases h
    · cases h

/-- A command that has been read is started where the log can be filtered. -/
theorem start_of_filter {command : Command} {verbosity : Nat} {filter : Log.Filter}
    (hread : CommandLine.read invocation.arguments = .ok (.run command verbosity))
    (hfilter : invocation.logFilter verbosity = some filter) :
    invocation.start = invocation.command command ⟨invocation.identity, filter⟩ := by
  unfold start
  rw [hread]
  dsimp only
  rw [hfilter]

theorem start_of_broken {command : Command} {verbosity : Nat}
    (hread : CommandLine.read invocation.arguments = .ok (.run command verbosity))
    (hbroken : invocation.logFilter verbosity = none) : invocation.start = .ended brokenOff := by
  unfold start
  rw [hread]
  dsimp only
  rw [hbroken]

/-- A command that has been read breaks off if the log cannot be filtered, fails if nothing can be
configured, and is started otherwise. -/
theorem start_of_run {command : Command} {verbosity : Nat}
    (hread : CommandLine.read invocation.arguments = .ok (.run command verbosity)) :
    invocation.start = .ended brokenOff ∨
      ∃ filter, invocation.logFilter verbosity = some filter ∧
        invocation.start = invocation.command command ⟨invocation.identity, filter⟩ := by
  cases hfilter : invocation.logFilter verbosity with
  | none => exact .inl (start_of_broken hread hfilter)
  | some filter => exact .inr ⟨filter, rfl, start_of_filter hread hfilter⟩

theorem command_of_error {command : Command} {cause : ConfigError}
    (h : invocation.resolution.result = .error cause) (commission : Commission) :
    invocation.command command commission =
      .ended (commission.fail invocation.resolution.events (.configuration cause)) := by
  simp only [Invocation.command, h]

theorem command_serve_of_ok {config : Config} (h : invocation.resolution.result = .ok config)
    (commission : Commission) :
    invocation.command .serve commission =
      .serving ⟨commission, config, invocation.resolution.events⟩ := by
  simp only [Invocation.command, h]

theorem command_check_of_ok {config : Config} (h : invocation.resolution.result = .ok config)
    (commission : Commission) :
    invocation.command .check commission =
      .checking ⟨commission, config, invocation.resolution.events⟩ := by
  simp only [Invocation.command, h]

theorem start_of_check {verbosity : Nat} {filter : Log.Filter} {config : Config}
    (hread : CommandLine.read invocation.arguments = .ok (.run .check verbosity))
    (hfilter : invocation.logFilter verbosity = some filter)
    (hconfig : invocation.resolution.result = .ok config) :
    invocation.start =
      .checking ⟨⟨invocation.identity, filter⟩, config, invocation.resolution.events⟩ :=
  (start_of_filter hread hfilter).trans (command_check_of_ok hconfig _)

/-- A check is asked for, under the port and the socket path of another invocation, and its log can
be filtered. -/
structure Checks (invocation served : Invocation) : Prop where
  port : invocation.environment .port = served.environment .port
  socketPath : invocation.environment .socketPath = served.environment .socketPath
  command : ∃ verbosity filter,
    CommandLine.read invocation.arguments = .ok (.run .check verbosity) ∧
      invocation.logFilter verbosity = some filter

/-- A check is made of the transport that is served, whatever the labels are. -/
theorem Checks.exists_check {served : Invocation} (h : invocation.Checks served) {config : Config}
    (hserved : served.resolution.result = .ok config) :
    ∃ check, invocation.start = .checking check ∧
      check.commission.identity = invocation.identity ∧
        check.config.transport = config.transport := by
  obtain ⟨verbosity, filter, hread, hfilter⟩ := h.command
  have hport : Environment.ofOctets invocation.environment .port =
      Environment.ofOctets served.environment .port := by
    rw [Environment.ofOctets, Environment.ofOctets, h.port]
  have hpath : Environment.ofOctets invocation.environment .socketPath =
      Environment.ofOctets served.environment .socketPath := by
    rw [Environment.ofOctets, Environment.ofOctets, h.socketPath]
  obtain ⟨config', hresolved, htransport⟩ :=
    Config.exists_resolve_of_candidates hserved hport hpath
  exact ⟨_, start_of_check hread hfilter hresolved, rfl, htransport⟩

end Invocation

/-! ## Services that are started -/

namespace Serving

variable {serving : Serving} {host : Host} {c : Custody}

/-- A service that has been started on a host; no endpoint is in anybody's hands. -/
def started (serving : Serving) (host : Host) : Custody :=
  ⟨serving.daemon host, []⟩

theorem accounted_started (serving : Serving) (host : Host) :
    (serving.started host).Accounted :=
  ⟨List.nodup_nil, by rintro file ⟨⟩⟩

theorem listening_started (serving : Serving) (host : Host) :
    (serving.started host).Listening :=
  ⟨List.nodup_nil, List.nil_subset _⟩

theorem sound_daemon (serving : Serving) (host : Host) : (serving.daemon host).Sound := by
  refine ⟨fun task hmem => ?_, by rintro ⟨⟩, rfl⟩
  obtain rfl := List.mem_singleton.mp hmem
  exact Task.sound_of_begin _ none

/-- A service whose call accepts connections is at the address of its transport, and is served
there for clients who get through to it. -/
theorem serves_of_runs {allowed : Custody → Daemon.Move → Custody → Prop}
    (hrun : Custody.Runs allowed (serving.started host) c)
    (hport : serving.config.transport ≠ .tcp 0) {task : Task}
    (htask : c.daemon.tasks[0]? = some task) (hstage : task.stage = .accepting) :
    ∃ endpoint, task.endpoint = some endpoint ∧
      endpoint.address = serving.config.transport.address ∧
        (c.Accessible endpoint → c.daemon.Serves endpoint.address) := by
  have hreaches := Custody.reaches_of_runs hrun
  have hmem := List.mem_of_getElem? htask
  have hcoheres := (((sound_daemon serving host).of_reaches hreaches).calls task hmem).coheres
  rw [Task.Coheres, hstage] at hcoheres
  obtain ⟨endpoint, hendpoint⟩ := Option.isSome_iff_exists.mp hcoheres.1
  obtain ⟨found, hfound, hbound⟩ :=
    Daemon.boundFor_of_reaches (i := 0) hreaches rfl (by rintro endpoint ⟨⟩)
  cases htask.symm.trans hfound
  obtain ⟨origin, hresult⟩ := hbound endpoint hendpoint
  have hlistening := (listening_started serving host).of_runs (accounted_started serving host) hrun
  refine ⟨endpoint, hendpoint, address_of_bindTransport hport hresult, fun haccessible => ?_⟩
  exact ⟨endpoint.listener,
    hlistening.reach hmem (by rw [hstage]; rfl) hbound hendpoint haccessible,
    Daemon.isServed_of_accepting hmem hstage hendpoint⟩

end Serving

/-! ## Checks that find a service -/

namespace Check

variable {check : Check} {exchange : Client.Exchange Health} {health : Health}

theorem outcome_of_expected (h : exchange.result = .ok health)
    (hname : health.service = check.commission.identity.name) :
    check.outcome exchange =
      check.commission.succeed (check.events ++ exchange.events) [health.encode] := by
  have hverdict : check.verdict exchange.result = .ok health := by
    rw [h]
    exact if_pos hname
  rw [outcome, hverdict]

theorem outcome_of_other (h : exchange.result = .ok health)
    (hname : health.service ≠ check.commission.identity.name) :
    check.outcome exchange =
      check.commission.fail (check.events ++ exchange.events)
        (.otherService check.address health.service check.commission.identity.name) := by
  have hverdict : check.verdict exchange.result =
      .error (.otherService check.address health.service check.commission.identity.name) := by
    rw [h]
    exact if_neg hname
  rw [outcome, hverdict]

/-- A check finds out of a daemon at its address who it is. -/
theorem result_of_serves {d : Daemon} (hserves : d.Serves check.address)
    (hlength : (Utf8.octets (d.service.body .health)).length ≤ Http.maxBodyLength) :
    (d.visit check.address check.exchange).1.result = .ok d.service.health := by
  rw [Daemon.visit_of_serves hserves]
  exact Daemon.health_of_peer (by decide) hlength check.address

end Check

/-! ## Agreement -/

/-- An endpoint is where its transport says, and the transport is checked there: at a loopback port
or at a path, as the transport has the one or the other. -/
structure Endpoint.IsAt (endpoint : Endpoint) (transport : Transport) : Prop where
  address : endpoint.address = transport.address
  port : ∀ port, endpoint.address = .tcp port ↔ transport.tcpPort? = some port
  path : ∀ path, endpoint.address = .unix path ↔ transport.socketPath? = some path

theorem isAt_of_address {endpoint : Endpoint} {transport : Transport}
    (h : endpoint.address = transport.address) : endpoint.IsAt transport :=
  ⟨h, fun _ => h ▸ Transport.address_eq_tcp_iff, fun _ => h ▸ Transport.address_eq_unix_iff⟩

/-- An invocation is serving: it has started a service on a host, and after whatever has happened
since, the call of the service accepts connections. -/
structure Invocation.IsServing (invocation : Invocation)
    (allowed : Custody → Daemon.Move → Custody → Prop) (host : Host) (c : Custody) (task : Task) :
    Prop where
  started : ∃ serving, invocation.start = .serving serving ∧
    Custody.Runs allowed (serving.started host) c
  call : c.daemon.tasks[0]? = some task
  accepting : task.stage = .accepting

/-- Clients get through to a service unless something is put in the way of its socket file. -/
theorem Invocation.IsServing.accessible {invocation : Invocation} {host : Host} {c : Custody}
    {task : Task} (h : invocation.IsServing Custody.Considerate host c task)
    (hloopback : host.loopback = true) {endpoint : Endpoint}
    (hendpoint : task.endpoint = some endpoint) : c.Accessible endpoint := by
  obtain ⟨serving, -, hrun⟩ := h.started
  have hkept : c.Kept := Custody.Kept.of_runs (by rintro file ⟨⟩)
    (serving.accounted_started host) hrun
  have hreachable : c.host.loopback = true :=
    (congrArg (·.2.2) (Daemon.footing_of_reaches (Custody.reaches_of_runs hrun))).trans hloopback
  exact hkept.accessible hreachable (List.mem_of_getElem? h.call) (by rw [h.accepting]; rfl)
    hendpoint

/-- What a check comes to that finds a service at an address: it passes with the health of the
service if that has the expected name, and fails otherwise. -/
structure Outcome.Judges (outcome : Outcome) (address : Address) (service expected : String) :
    Prop where
  passes : service = expected → outcome.status = 0 ∧ outcome.errors = [] ∧
    ∃ lines, outcome.output = lines ++ [Health.encode ⟨"ok", service⟩]
  fails : service ≠ expected → outcome.status = 1 ∧
    outcome.errors = (CommandFailure.otherService address service expected).report.lines

theorem Check.judges {check : Check} {exchange : Client.Exchange Health} {service : String}
    (h : exchange.result = .ok ⟨"ok", service⟩) :
    (check.outcome exchange).Judges check.address service check.commission.identity.name := by
  refine ⟨fun hname => ?_, fun hname => ?_⟩
  · rw [check.outcome_of_expected h hname]
    exact ⟨rfl, rfl, _, rfl⟩
  · rw [check.outcome_of_other h hname]
    exact ⟨rfl, rfl⟩

/-- A check under the port and the socket path of a service looks for it where it is, and judges
it by its name if it gets through. -/
theorem Invocation.IsServing.exists_check {served checked : Invocation}
    {allowed : Custody → Daemon.Move → Custody → Prop} {host : Host} {c : Custody} {task : Task}
    (h : served.IsServing allowed host c task)
    (hlength : (Utf8.octets (Health.encode ⟨"ok", served.identity.name⟩)).length ≤
      Http.maxBodyLength) (hchecks : checked.Checks served) :
    ∃ check endpoint, checked.start = .checking check ∧ task.endpoint = some endpoint ∧
      endpoint.IsAt check.config.transport ∧
      (c.Accessible endpoint →
        (check.outcome (c.daemon.visit check.address check.exchange).1).Judges endpoint.address
          served.identity.name checked.identity.name) := by
  obtain ⟨serving, hstart, hrun⟩ := h.started
  obtain ⟨hresolved, hidentity⟩ := Invocation.resolution_of_serving hstart
  obtain ⟨endpoint, hendpoint, haddress, hserves⟩ := Serving.serves_of_runs hrun
    (Config.transport_ne_tcp_zero hresolved) h.call h.accepting
  obtain ⟨check, hchecking, hexpected, htransport⟩ := hchecks.exists_check hresolved
  have hat : endpoint.IsAt check.config.transport :=
    isAt_of_address (haddress.trans (congrArg Transport.address htransport.symm))
  have hsame : endpoint.address = check.address := hat.address
  refine ⟨check, endpoint, hchecking, hendpoint, hat, fun haccessible => ?_⟩
  have hservice : c.daemon.identity = served.identity :=
    (congrArg (·.2.1) (Daemon.footing_of_reaches (Custody.reaches_of_runs hrun))).trans hidentity
  have hhealth : c.daemon.service.health = ⟨"ok", served.identity.name⟩ := by
    rw [← hservice]
    rfl
  have hresult := check.result_of_serves (hsame ▸ hserves haccessible) (by
    rw [Service.body, hhealth]
    exact hlength)
  rw [hhealth] at hresult
  rw [← hexpected, hsame]
  exact Check.judges hresult

/-- Serving and checking agree on the address. Whatever environment resolves, an endpoint that is
bound for its transport is at the address that is checked. So a check under the port and the socket
path of a service looks for it where it is, whatever has happened since it was started, and judges
it by its name if it gets through; and it gets through, where loopback addresses can be reached, as
long as nobody puts something in the way of the socket file. The length of a body can be stated, as
can that of everything that is held in memory. -/
theorem serving_and_checking_agree :
    (∀ env config host endpoint, (Config.resolve env).result = .ok config →
      (bindTransport host config.transport).result = .ok endpoint →
        endpoint.IsAt config.transport) ∧
    (∀ (served checked : Invocation) allowed host c task,
      served.IsServing allowed host c task →
      (Utf8.octets (Health.encode ⟨"ok", served.identity.name⟩)).length ≤ Http.maxBodyLength →
      checked.Checks served →
        ∃ check endpoint, checked.start = .checking check ∧ task.endpoint = some endpoint ∧
          endpoint.IsAt check.config.transport ∧
          (c.Accessible endpoint →
            (check.outcome (c.daemon.visit check.address check.exchange).1).Judges
              endpoint.address served.identity.name checked.identity.name)) ∧
    ∀ (served : Invocation) host c task endpoint,
      served.IsServing Custody.Considerate host c task → host.loopback = true →
        task.endpoint = some endpoint → c.Accessible endpoint := by
  refine ⟨fun env config host endpoint hresolve hbind => ?_,
    fun served checked allowed host c task hserving hlength hchecks => ?_,
    fun served host c task endpoint hserving hloopback hendpoint => ?_⟩
  · have hport := Config.transport_ne_tcp_zero hresolve
    exact isAt_of_address (address_of_bindTransport hport hbind)
  · exact hserving.exists_check hlength hchecks
  · exact hserving.accessible hloopback hendpoint

/-! ## A service at a socket path -/

theorem Custody.considerate_of_no_deed {c c' : Custody} {move : Daemon.Move}
    (h : c.daemon.deed? move = none) : Custody.Considerate c move c' := by
  intro deed hdeed
  rw [h] at hdeed
  cases hdeed

theorem Custody.considerate_of_no_live {c c' : Custody} {move : Daemon.Move} (h : c.live = []) :
    Custody.Considerate c move c' := by
  intro deed _ _ file hmem
  rw [h] at hmem
  cases hmem

theorem Custody.Runs.next {allowed : Custody → Daemon.Move → Custody → Prop} {c c' : Custody}
    (hrun : Custody.Runs allowed c c') (move : Daemon.Move)
    (hallowed : ∀ c'', allowed c' move c'') :
    Custody.Runs allowed c ((c'.step move).getD c') := by
  cases hstep : c'.step move with
  | none => exact hrun
  | some c'' => exact .step hrun hstep (hallowed c'')

/-- A command under an environment that sets the socket path at most. -/
def commandAt (path : Option Path) (identity : Identity) (command : String) : Invocation where
  identity := identity
  arguments := [Utf8.octets command]
  environment
    | .socketPath => path
    | _ => none
  filter := none

/-- The service that is started at a socket path. -/
def socketService : Serving :=
  ⟨⟨.cache, .everywhere .info⟩, ⟨.unix [0x73], "unknown", "unknown"⟩, [matchedEvent .socketPath]⟩

/-- The service once it accepts connections, on a host without files. -/
def accepted : Custody :=
  (socketService.started (.idle ⟨[], []⟩ true)).after
    [.advance 0, .advance 0, .advance 0, .advance 0]

def acceptedTask : Task :=
  ⟨some (.unix 1 [0x73]), .accepting, .waiting, none, none, false⟩

theorem runs_accepted :
    Custody.Runs Custody.Considerate (socketService.started (.idle ⟨[], []⟩ true)) accepted := by
  have hcreated : Custody.Runs Custody.Considerate
      (socketService.started (.idle ⟨[], []⟩ true)) _ := .refl _
  have hbound := hcreated.next (.advance 0) fun _ => Custody.considerate_of_no_live rfl
  have hannounced := hbound.next (.advance 0) fun _ => Custody.considerate_of_no_deed (by cbv)
  have hopening := hannounced.next (.advance 0) fun _ => Custody.considerate_of_no_deed (by cbv)
  exact hopening.next (.advance 0) fun _ => Custody.considerate_of_no_deed (by cbv)

theorem start_socketService :
    (commandAt (some [0x73]) .cache "serve").start = .serving socketService := by
  cbv

theorem accepted_isServing :
    (commandAt (some [0x73]) .cache "serve").IsServing Custody.Considerate (.idle ⟨[], []⟩ true)
      accepted acceptedTask :=
  ⟨⟨socketService, start_socketService, runs_accepted⟩, by cbv, rfl⟩

theorem commandAt_checks (path : Option Path) (checking served : Identity) :
    (commandAt path checking "check").Checks (commandAt path served "serve") :=
  ⟨rfl, rfl, 0, .everywhere .info, by cbv, by cbv⟩

/-- The default port is bound where it is checked; and a service at a socket path passes the check
of its own program, and no other one. -/
theorem socket_service_is_judged :
    Endpoint.IsAt (.tcp defaultPort) Config.default.transport ∧
      (∃ check lines, (commandAt (some [0x73]) .cache "check").start = .checking check ∧
        check.outcome (accepted.daemon.visit check.address check.exchange).1 =
          ⟨0, lines ++ [Health.encode ⟨"ok", "rust-cache"⟩], []⟩) ∧
      ∃ check, (commandAt (some [0x73]) .api "check").start = .checking check ∧
        (check.outcome (accepted.daemon.visit check.address check.exchange).1).status = 1 := by
  obtain ⟨hat, hjudges, haccessible⟩ := serving_and_checking_agree
  have hopen : accepted.Accessible (.unix 1 [0x73]) :=
    haccessible _ _ _ _ _ accepted_isServing rfl rfl
  have hjudged : ∀ identity : Identity, ∃ check,
      (commandAt (some [0x73]) identity "check").start = .checking check ∧
        (check.outcome (accepted.daemon.visit check.address check.exchange).1).Judges
          (.unix [0x73]) "rust-cache" identity.name := by
    intro identity
    obtain ⟨check, endpoint, hchecking, hendpoint, -, hjudged⟩ :=
      hjudges _ _ _ _ _ _ accepted_isServing (by decide) (commandAt_checks _ identity .cache)
    cases hendpoint
    exact ⟨check, hchecking, hjudged hopen⟩
  refine ⟨hat (fun _ => none) .default (.idle ⟨[], []⟩ true) (.tcp defaultPort) rfl rfl, ?_, ?_⟩
  · obtain ⟨check, hchecking, hpasses, -⟩ := hjudged .cache
    obtain ⟨hstatus, herrors, lines, houtput⟩ := hpasses rfl
    refine ⟨check, lines, hchecking, ?_⟩
    rw [← houtput, ← herrors, ← hstatus]
  · obtain ⟨check, hchecking, -, hfails⟩ := hjudged .api
    exact ⟨check, hchecking, (hfails (by decide)).1⟩

/-! ## Services that clients do not get through to -/

theorem Check.status_of_unreached {check : Check} {d : Daemon} {fault : SystemError}
    (h : d.host.reach check.address = .error fault) :
    (check.outcome (d.visit check.address check.exchange).1).status = 1 := by
  have hfound : d.peerAt check.address = .error fault := by
    rw [Daemon.peerAt, h]
  have hresult : (d.visit check.address check.exchange).1.result =
      .error (.connect check.address fault) := by
    rw [Daemon.visit, hfound]
    rfl
  rw [outcome, hresult]
  rfl

/-- A service accepts connections, and the check of its own program under the same environment
fails. -/
def IsMissed (path : Option Path) (host : Host) (c : Custody) (task : Task) : Prop :=
  (commandAt path .cache "serve").IsServing (fun _ _ _ => True) host c task ∧
    (commandAt path .cache "check").Checks (commandAt path .cache "serve") ∧
    ∃ check, (commandAt path .cache "check").start = .checking check ∧
      (check.outcome (c.daemon.visit check.address check.exchange).1).status = 1

/-- The service after another endpoint was bound at its path and let go. -/
def displaced : Custody :=
  accepted.after [.bindAt (.unix [0x73]), .drop (.unix 2 [0x73])]

/-- The service that is started when nothing is configured. -/
def portService : Serving :=
  ⟨⟨.cache, .everywhere .info⟩, .default, [unconfiguredEvent]⟩

/-- That service, where loopback addresses cannot be reached. -/
def secluded : Custody :=
  (portService.started (.idle ⟨[], []⟩ false)).after
    [.advance 0, .advance 0, .advance 0, .advance 0]

/-- An endpoint that is bound at the path of a service and let go takes the socket file along, so
that nobody is found there; and nobody is found at a port where loopback addresses cannot be
reached. -/
theorem displaced_service_is_missed :
    IsMissed (some [0x73]) (.idle ⟨[], []⟩ true) displaced acceptedTask ∧
      IsMissed none (.idle ⟨[], []⟩ false) secluded
        ⟨some (.tcp defaultPort), .accepting, .waiting, none, none, false⟩ := by
  constructor
  · have hrun : Custody.Runs (fun _ _ _ => True) (socketService.started (.idle ⟨[], []⟩ true))
        displaced :=
      Custody.runs_after _
        [.advance 0, .advance 0, .advance 0, .advance 0, .bindAt (.unix [0x73]),
          .drop (.unix 2 [0x73])]
    have hchecking : (commandAt (some [0x73]) .cache "check").start =
        .checking ⟨socketService.commission, socketService.config, socketService.events⟩ := by
      cbv
    have hnobody : displaced.host.reach (.unix [0x73]) = .error .noEntry := by cbv
    exact ⟨⟨⟨socketService, start_socketService, hrun⟩, by cbv, rfl⟩, commandAt_checks _ _ _, _,
      hchecking, Check.status_of_unreached hnobody⟩
  · have hstart : (commandAt none .cache "serve").start = .serving portService := by cbv
    have hchecking : (commandAt none .cache "check").start =
        .checking ⟨portService.commission, portService.config, portService.events⟩ := by
      cbv
    have hnobody : secluded.host.reach (.tcp defaultPort) = .error .networkUnreachable := by cbv
    exact ⟨⟨⟨portService, hstart, Custody.runs_after _ _⟩, by cbv, rfl⟩, commandAt_checks _ _ _, _,
      hchecking, Check.status_of_unreached hnobody⟩

end Beacon
