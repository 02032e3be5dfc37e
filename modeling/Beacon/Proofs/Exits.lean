import Beacon.Proofs.Undisturbed

/-!
# How services end

A service that is left to itself ends in one of two ways. If its bind has failed, the program fails
at once: nothing was announced and nothing served. Otherwise it goes on until a signal comes, and
then the program ends without fault once the service has stopped. In either case no socket file of
the service is left; and a service that is given time again and again ends once a signal has come,
whenever that was.
-/

namespace Beacon

/-- A daemon serves nothing: nobody accepts connections, and no request is answered or recorded. -/
def Daemon.ServesNothing (d : Daemon) : Prop :=
  (∀ listener, d.isServed listener = false) ∧
    ∀ address limit call, (∃ failure, (d.call address limit call).1 = .error failure) ∧
      (d.call address limit call).2.sink = d.sink

namespace Serving

variable {serving : Serving} {host : Host} {c c' : Custody} {task : Task} {outcome : Outcome}

/-! ## Outcomes -/

theorem stage_of_outcome {d : Daemon} (htasks : d.tasks = [task])
    (h : serving.outcome? d = some outcome) :
    ∃ result, task.stage = .returned result ∧ outcome = match result with
      | .ok trigger => serving.commission.succeed (d.log ++ [serving.exitingEvent trigger]) []
      | .error cause => serving.commission.fail d.log (.serving cause) := by
  obtain ⟨result, hresult, rfl⟩ := Option.map_eq_some_iff.mp h
  rw [result?, htasks, List.head?_cons] at hresult
  dsimp only at hresult
  split at hresult
  next hstage =>
    cases hresult
    exact ⟨result, hstage, rfl⟩
  · cases hresult

theorem exists_outcome (serving : Serving) {d : Daemon} (htasks : d.tasks = [task])
    {result : Except DaemonError Trigger} (hstage : task.stage = .returned result) :
    ∃ outcome, serving.outcome? d = some outcome := by
  have hresult : result? d = some result := by
    rw [result?, htasks, List.head?_cons]
    dsimp only
    rw [hstage]
  exact ⟨_, by rw [outcome?, hresult]; rfl⟩

/-- How a service ends. The program ends without fault exactly if the service has bound, and fails
exactly if it could not. -/
structure Exit (serving : Serving) (host : Host) (c : Custody) (outcome : Outcome) : Prop where
  status : outcome.status = 0 ∨ outcome.status = 1
  success : outcome.status = 0 ↔ ∃ endpoint, serving.HasBound host (.ok endpoint) c
  failure : outcome.status = 1 ↔ ∃ failure, serving.HasBound host (.error failure) c
  /-- Without fault, a signal has come, and the service has stopped. -/
  signalled : outcome.status = 0 → ∃ task trigger, c.daemon.tasks = [task] ∧
    task.interrupt = some trigger ∧ trigger ≠ .requested ∧ c.daemon.phase = .stopped ∧
    outcome = serving.commission.succeed (c.daemon.log ++ [serving.exitingEvent trigger]) []
  /-- With a failure, nothing was announced, and nothing served on the way. -/
  unserved : outcome.status = 1 → c.daemon.history = (.unstarted, []) ∧
    (∀ c', Custody.Runs (Happens host) (serving.started host) c' →
      Custody.Runs (Happens host) c' c → c'.daemon.ServesNothing) ∧
    ∃ failure, outcome = serving.commission.fail c.daemon.log (.serving (.bind failure))
  /-- No socket file is left that the service has made. -/
  clean : host.files.AddsNoSocket c.files host.nextSocket

/-! ## Services that have ended -/

/-- A service that has bound, and has ended, got a signal. -/
theorem signalled_of_returned (hrun : Custody.Runs (Happens host) (serving.started host) c)
    (hundisturbed : c.Undisturbed task) {endpoint : Endpoint}
    (hendpoint : task.endpoint = some endpoint) {result : Except DaemonError Trigger}
    (hstage : task.stage = .returned result) :
    ∃ trigger, result = .ok trigger ∧ task.interrupt = some trigger ∧ trigger ≠ .requested ∧
      c.daemon.phase = .stopped := by
  have hsound := sound_of_runs hrun
  obtain ⟨hstopped, hverdict⟩ := hsound.stopped_of_returned
    (List.mem_of_getElem? hundisturbed.found) (hendpoint ▸ rfl) hstage
  rw [Task.verdict?, hundisturbed.unbroken] at hverdict
  obtain ⟨trigger, hanswer, rfl⟩ := Option.map_eq_some_iff.mp hverdict
  have htaken : task.watcher.trigger? = some trigger := by
    cases hwatcher : task.watcher with
    | handed taken =>
        rw [hwatcher] at hanswer
        cases hanswer
        rfl
    | lost => exact absurd hwatcher hundisturbed.watched
    | _ =>
        rw [hwatcher] at hanswer
        cases hanswer
  have htrigger := (hundisturbed.sound hsound.daemon).trigger trigger htaken
  rw [Daemon.mem_triggers_iff, hundisturbed.unrequested] at htrigger
  obtain hinterrupt | ⟨-, hstop⟩ := htrigger
  · refine ⟨trigger, rfl, hinterrupt, ?_, hstopped⟩
    rintro rfl
    exact hundisturbed.signalled hinterrupt
  · cases hstop

/-- A service has nothing that it could serve as long as it has no endpoint. -/
theorem servesNothing_of_unbound (hrun : Custody.Runs (Happens host) (serving.started host) c)
    (hundisturbed : c.Undisturbed task) (hendpoint : task.endpoint = none) :
    c.daemon.ServesNothing := by
  have hcoheres := (hundisturbed.sound (sound_of_runs hrun).daemon).coheres
  have hserved := Custody.isServed_eq_false fun other hmem => by
    rw [hundisturbed.tasks] at hmem
    obtain rfl := List.mem_singleton.mp hmem
    exact hcoheres.isOpen_eq_false hendpoint
  exact ⟨hserved, Custody.call_of_not_served hserved⟩

/-- A service that has no endpoint had none before. -/
theorem unbound_of_later (hrun : Custody.Runs (Happens host) (serving.started host) c)
    (hundisturbed : c.Undisturbed task) (hlater : Custody.Runs (Happens host) c c') {task' : Task}
    (hundisturbed' : c'.Undisturbed task') (hendpoint : task'.endpoint = none) :
    task.endpoint = none := by
  cases hbound : task.endpoint with
  | none => rfl
  | some endpoint =>
      have hshows : task.Shows (.ok endpoint) := hbound
      obtain ⟨found, hfound, hstill⟩ := Daemon.shows_of_reaches (Custody.reaches_of_runs hlater)
        (sound_of_runs hrun).daemon hundisturbed.found hshows
      cases hundisturbed'.found.symm.trans hfound
      cases hendpoint.symm.trans hstill

theorem live_of_returned (hundisturbed : c.Undisturbed task)
    {result : Except DaemonError Trigger} (hstage : task.stage = .returned result) :
    c.live = [] := by
  have hnone : task.socketFile? = none := by
    rw [Task.socketFile?, hstage]
    rfl
  rw [Custody.live, hundisturbed.held, hundisturbed.tasks, List.filterMap_cons_none hnone]
  rfl

/-- The bind of a service does not come out in two ways. -/
theorem HasBound.unique {result result' : Except BindError Endpoint}
    (h : serving.HasBound host result c) (h' : serving.HasBound host result' c)
    (hundisturbed : c.Undisturbed task) : result = result' := by
  have hshows := h.shows hundisturbed.tasks
  have hshows' := h'.shows hundisturbed.tasks
  cases result with
  | ok endpoint =>
      cases result' with
      | ok other => exact congrArg Except.ok (Option.some.inj (hshows.symm.trans hshows'))
      | error failure => cases hshows.symm.trans hshows'.1
  | error failure =>
      cases result' with
      | ok endpoint => cases hshows.1.symm.trans hshows'
      | error other =>
          cases hshows.2.symm.trans hshows'.2
          rfl

/-- Whatever happens to a service that is left to itself, it ends in one of the two ways. -/
theorem exit_of_runs (hrun : Custody.Runs (Happens host) (serving.started host) c)
    (hover : serving.outcome? c.daemon = some outcome) : serving.Exit host c outcome := by
  obtain ⟨task, hundisturbed⟩ := undisturbed_of_runs hrun
  obtain ⟨result, hstage, rfl⟩ := stage_of_outcome hundisturbed.tasks hover
  have hclean := (kept_of_runs hrun).2.addsNoSocket (live_of_returned hundisturbed hstage)
  obtain hbinding | ⟨bound, hbound⟩ := hasBound_of_runs hrun hundisturbed.tasks
  · cases hstage.symm.trans hbinding
  · have hshows := hbound.shows hundisturbed.tasks
    cases bound with
    | ok endpoint =>
        obtain ⟨trigger, rfl, hsignal, hkind, hstopped⟩ :=
          signalled_of_returned hrun hundisturbed hshows hstage
        have hunfailed : ¬ ∃ failure, serving.HasBound host (.error failure) c := by
          rintro ⟨failure, hfailed⟩
          cases hbound.unique hfailed hundisturbed
        exact ⟨.inl rfl, iff_of_true rfl ⟨endpoint, hbound⟩,
          iff_of_false (by rintro ⟨⟩) hunfailed,
          fun _ => ⟨task, trigger, hundisturbed.tasks, hsignal, hkind, hstopped, rfl⟩,
          by rintro ⟨⟩, hclean⟩
    | error failure =>
        obtain ⟨hendpoint, hreturned⟩ := hshows
        cases hstage.symm.trans hreturned
        have hunbound : ¬ ∃ endpoint, serving.HasBound host (.ok endpoint) c := by
          rintro ⟨endpoint, hgot⟩
          cases hbound.unique hgot hundisturbed
        refine ⟨.inr rfl, iff_of_false (by rintro ⟨⟩) hunbound, iff_of_true rfl ⟨failure, hbound⟩,
          by rintro ⟨⟩, fun _ => ⟨hundisturbed.unannounced hendpoint, fun c' hearlier hlater => ?_,
            failure, rfl⟩, hclean⟩
        obtain ⟨task', hundisturbed'⟩ := undisturbed_of_runs hearlier
        exact servesNothing_of_unbound hearlier hundisturbed'
          (unbound_of_later hearlier hundisturbed' hlater hundisturbed hendpoint)

/-! ## Services that are given time -/

/-- What is made in a course of a service happens to it. -/
def Attends (host : Host) {d : Daemon} (course : Daemon.Course d) : Prop :=
  ∀ n move, course.move n = some move →
    Happens host ⟨course.state n, []⟩ move ⟨course.state (n + 1), []⟩

variable {course : Daemon.Course (serving.daemon host)} {n : Nat}

theorem Happens.step_of_daemon {d d' : Daemon} {held : List Endpoint} {move : Daemon.Move}
    (h : Happens host ⟨d, held⟩ move c') (hstep : d.step move = some d') :
    Custody.step ⟨d, held⟩ move = some ⟨d', held⟩ :=
  Custody.step_of_daemon h.plain.1 h.plain.2 hstep

/-- Each moment of a course is the end of a run. -/
theorem runs_of_course (hattends : Attends host course) (n : Nat) :
    Custody.Runs (Happens host) (serving.started host) ⟨course.state n, []⟩ := by
  induction n with
  | zero =>
      rw [course.starts]
      exact .refl _
  | succ n ih =>
      have hfollows := course.follows n
      split at hfollows
      next move hmove =>
        have hhappens := hattends n move hmove
        exact ih.step (hhappens.step_of_daemon hfollows) hhappens
      next =>
        rw [hfollows]
        exact ih

/-- The call of a service that is given time again and again comes to bind. -/
theorem binds_of_course (hattends : Attends host course) (hfair : course.FairTo 0) :
    ∃ n result, serving.HasBound host result ⟨course.state n, []⟩ := by
  obtain ⟨m, -, hgiven⟩ := hfair 0
  have hrun := runs_of_course hattends m
  obtain ⟨task, hundisturbed⟩ := undisturbed_of_runs hrun
  obtain hbinding | ⟨result, hbound⟩ := hasBound_of_runs hrun hundisturbed.tasks
  · have hcoheres := (hundisturbed.sound (sound_of_runs hrun).daemon).coheres
    rw [Task.Coheres, hbinding] at hcoheres
    have hadvance : (course.state m).step (.advance 0) = some ((course.state m).bindTask 0) := by
      rw [Daemon.step, hundisturbed.found, Option.bind_some, Daemon.advanceTask, hbinding]
    obtain ⟨move, hmove, hown⟩ | hnone := hgiven
    · have hfollows := course.follows m
      rw [hmove] at hfollows
      cases move with
      | advance i =>
          cases hown
          have hhappens := hattends m _ hmove
          exact ⟨m + 1, _, _, _, ⟨hrun, ⟨task, hundisturbed.tasks, hbinding⟩, rfl,
            hhappens.step_of_daemon hfollows⟩, .refl _⟩
      | watch i trigger =>
          cases hown
          change (course.state m).step (.watch 0 trigger) = _ at hfollows
          rw [Daemon.step, hundisturbed.found, Option.bind_some, Daemon.advanceWatcher,
            hcoheres.2] at hfollows
          cases hfollows
      | _ => cases hown
    · rw [hnone _ rfl] at hadvance
      cases hadvance
  · exact ⟨m, result, hbound⟩

/-- A service to which a signal has come ends, if it is given time again and again. -/
theorem exits_of_signal (hattends : Attends host course) (hfair : course.FairTo 0)
    {trigger : Trigger} (hsignal : course.move n = some (.interrupt 0 trigger)) :
    ∃ m outcome, serving.outcome? (course.state m) = some outcome := by
  obtain ⟨task, hundisturbed⟩ := undisturbed_of_runs (runs_of_course hattends (n + 1))
  have hcome : task.interrupt.isSome := by
    have hfollows := course.follows n
    rw [hsignal] at hfollows
    exact Daemon.interrupt_isSome_of_step hfollows hundisturbed.found
  -- The signal stays, so that there is always a trigger for the watcher.
  have hsteps : ∀ k found, n + 1 ≤ k → (course.state k).tasks[0]? = some found →
      found.stage.isOver = false →
        ∃ move d', move.own? = some 0 ∧ (course.state k).step move = some d' := by
    intro k found hle hfound hgoing
    obtain ⟨kept, hkept, hinterrupt⟩ := course.keeps (P := fun task => task.interrupt.isSome)
      (fun _ _ _ _ _ _ hstep hearlier hlater =>
        (Daemon.evolves_of_found hstep hearlier hlater).interrupt_isSome)
      hundisturbed.found hcome hle
    cases hfound.symm.trans hkept
    obtain ⟨taken, htaken⟩ := Option.isSome_iff_exists.mp hinterrupt
    exact (sound_of_runs (runs_of_course hattends k)).daemon.own_step_of_trigger
      (Daemon.mem_triggers_iff.mpr (.inl htaken)) hfound hgoing
  obtain ⟨m, last, result, -, hlast, hreturned⟩ := course.returns_of_own_steps hfair hsteps
    hundisturbed.found hundisturbed.kept
    fun k _ hcancel => (hattends k _ hcancel).spares.uncancelled rfl
  obtain ⟨single, hsingle⟩ := undisturbed_of_runs (runs_of_course hattends m)
  cases hlast.symm.trans hsingle.found
  obtain ⟨outcome, houtcome⟩ := serving.exists_outcome hsingle.tasks hreturned
  exact ⟨m, outcome, houtcome⟩

/-- A service that is given time again and again ends, unless it has bound and no signal comes. -/
theorem exits_of_course (hattends : Attends host course) (hfair : course.FairTo 0) :
    (∃ n outcome, serving.outcome? (course.state n) = some outcome) ∨
      (∃ n endpoint, serving.HasBound host (.ok endpoint) ⟨course.state n, []⟩) ∧
        ∀ n trigger, course.move n ≠ some (.interrupt 0 trigger) := by
  by_cases hsignal : ∃ n trigger, course.move n = some (.interrupt 0 trigger)
  · obtain ⟨n, trigger, hcome⟩ := hsignal
    exact .inl (exits_of_signal hattends hfair hcome)
  · obtain ⟨n, result, hbound⟩ := binds_of_course hattends hfair
    cases result with
    | ok endpoint =>
        exact .inr ⟨⟨n, endpoint, hbound⟩, fun m trigger hcome => hsignal ⟨m, trigger, hcome⟩⟩
    | error failure =>
        obtain ⟨task, hundisturbed⟩ := undisturbed_of_runs (runs_of_course hattends n)
        obtain ⟨-, hreturned⟩ := hbound.shows hundisturbed.tasks
        obtain ⟨outcome, houtcome⟩ := serving.exists_outcome hundisturbed.tasks hreturned
        exact .inl ⟨n, outcome, houtcome⟩

end Serving

/-! ## The program that serves -/

/-- The program that is to serve ends as its configuration and its bind come out. Only if the text
of its log filter cannot be divided at its marks, it breaks off before anything is configured, and
leaves the host as it is. If nothing can be configured, it fails at once, and leaves the host as it
is. Otherwise the service is started, and however the program ends, it ends without fault exactly if
the service has bound, upon a signal and with the service stopped; it fails exactly if the bind has
failed, with nothing announced and nothing served; and it leaves no socket file that the service has
made. If it is given time again and again, it does end, unless it has bound and no signal ever
comes. -/
theorem serving_ends_as_it_binds {invocation : Invocation} {verbosity : Nat}
    (hread : CommandLine.read invocation.arguments = .ok (.run .serve verbosity)) (host : Host)
    (find : Address → Except SystemError (Listener × Client.Peer)) :
    (invocation.logFilter verbosity = none →
      ∃ outcome, invocation.launch host find = .over outcome host ∧ outcome.status = 101) ∧
    ∀ filter, invocation.logFilter verbosity = some filter →
      (∀ cause, invocation.resolution.result = .error cause →
        ∃ outcome, invocation.launch host find = .over outcome host ∧ outcome.status = 1 ∧
          outcome.errors = (CommandFailure.configuration cause).report.lines) ∧
      ∀ config, invocation.resolution.result = .ok config →
        ∃ serving, invocation.launch host find = .serving serving (serving.daemon host) ∧
          serving.config = config ∧
          (∀ c outcome, Custody.Runs (Serving.Happens host) (serving.started host) c →
            serving.outcome? c.daemon = some outcome → serving.Exit host c outcome) ∧
          ∀ course : Daemon.Course (serving.daemon host), Serving.Attends host course →
            course.FairTo 0 →
              (∃ n outcome, serving.outcome? (course.state n) = some outcome) ∨
                (∃ n endpoint, serving.HasBound host (.ok endpoint) ⟨course.state n, []⟩) ∧
                  ∀ n trigger, course.move n ≠ some (.interrupt 0 trigger) := by
  constructor
  · intro hbroken
    refine ⟨Invocation.brokenOff, ?_, rfl⟩
    rw [Invocation.launch, Invocation.start_of_broken hread hbroken]
  intro filter hfilter
  have hstart := Invocation.start_of_filter hread hfilter
  constructor
  · intro cause hcause
    rw [Invocation.command_of_error hcause] at hstart
    exact ⟨_, by rw [Invocation.launch, hstart], rfl, rfl⟩
  · intro config hconfig
    rw [Invocation.command_serve_of_ok hconfig] at hstart
    exact ⟨_, by rw [Invocation.launch, hstart], rfl,
      fun c outcome hrun hover => Serving.exit_of_runs hrun hover,
      fun course hattends hfair => Serving.exits_of_course hattends hfair⟩

/-- A filter that begins with a tab and an accented letter breaks the program off, although it could
have been configured. -/
theorem accented_filter_breaks_off :
    let invocation : Invocation :=
      { commandAt (some [0x73]) .cache "serve" with filter := some (Utf8.octets "\té=x") }
    CommandLine.read invocation.arguments = .ok (.run .serve 0) ∧
      invocation.resolution.result = .ok ⟨.unix [0x73], "unknown", "unknown"⟩ ∧
      ∃ outcome, invocation.launch (.idle ⟨[], []⟩ true) (fun _ => .error .noEntry) =
          .over outcome (.idle ⟨[], []⟩ true) ∧
        outcome.status ≠ 0 ∧ outcome.status ≠ 1 := by
  intro invocation
  have hread : CommandLine.read invocation.arguments = .ok (.run .serve 0) := by cbv
  have hasked : (invocation.filter.bind Utf8.decode?).map String.ofList = some "\té=x" := by
    have hdecode : invocation.filter.bind Utf8.decode? = some "\té=x".toList :=
      Utf8.decode?_encode _
    rw [hdecode, Option.map_some, String.ofList_toList]
  have hparse : Log.Filter.parse "\té=x" = .error .splitCharacter := by decide
  have hbroken : invocation.logFilter 0 = none := by
    simp only [Invocation.logFilter, hasked, Log.Filter.orElse, Option.map_some, hparse]
  refine ⟨hread, by cbv, Invocation.brokenOff, ?_, by decide, by decide⟩
  rw [Invocation.launch, Invocation.start_of_broken hread hbroken]

/-- A call that binds and serves until it is told to terminate, and takes each step that it can. -/
def terminatedCall : List Daemon.Move :=
  [.advance 0, .advance 0, .advance 0, .advance 0, .interrupt 0 .terminate, .watch 0 .terminate,
    .watch 0 .terminate, .watch 0 .terminate, .advance 0, .advance 0, .advance 0, .advance 0,
    .advance 0, .advance 0]

/-- The course of a service at a socket path that is told to terminate. -/
def terminatedCourse : Daemon.Course (socketService.daemon (.idle ⟨[], []⟩ true)) :=
  .along _ terminatedCall

theorem attends_terminatedCourse :
    Serving.Attends (.idle ⟨[], []⟩ true) terminatedCourse := by
  intro n move hmove
  have hmem := Daemon.Course.mem_of_along hmove
  simp only [terminatedCall, List.mem_cons, List.not_mem_nil, or_false, or_self, or_self_left]
    at hmem
  obtain rfl | rfl | rfl | rfl := hmem
  · exact .advances
  · exact .signalled (by rintro ⟨⟩)
  · exact .watches
  · exact .advances

/-- A service at a socket path that is told to terminate ends without fault, and in time. -/
theorem terminated_service_ends :
    (∃ outcome, outcome.status = 0 ∧ socketService.Exit (.idle ⟨[], []⟩ true)
      ⟨terminatedCourse.state terminatedCall.length, []⟩ outcome) ∧
    ∃ n outcome, socketService.outcome? (terminatedCourse.state n) = some outcome := by
  have hlast : (terminatedCourse.state terminatedCall.length).tasks =
      [⟨some (.unix 1 [0x73]), .returned (.ok .terminate), .handed .terminate, some .terminate,
        none, false⟩] := by
    cbv
  have hfair : terminatedCourse.FairTo 0 := Daemon.Course.fairTo_along fun move hown =>
    Daemon.step_of_over (congrArg (·[0]?) hlast) rfl rfl hown
  have hread : CommandLine.read (commandAt (some [0x73]) .cache "serve").arguments =
      .ok (.run .serve 0) := by
    cbv
  have hfilter : (commandAt (some [0x73]) .cache "serve").logFilter 0 =
      some (.everywhere .info) := by
    cbv
  obtain ⟨-, hfiltered⟩ := serving_ends_as_it_binds hread (.idle ⟨[], []⟩ true)
    fun _ => .error .noEntry
  obtain ⟨-, hserves⟩ := hfiltered _ hfilter
  obtain ⟨serving, hlaunch, -, hexits, hends⟩ := hserves socketService.config (by cbv)
  rw [Invocation.launch, start_socketService] at hlaunch
  cases hlaunch
  constructor
  · obtain ⟨outcome, houtcome⟩ := socketService.exists_outcome hlast rfl
    have hrun := Serving.runs_of_course attends_terminatedCourse terminatedCall.length
    obtain ⟨result, hstage, hresult⟩ := Serving.stage_of_outcome hlast houtcome
    cases hstage
    exact ⟨outcome, by rw [hresult]; rfl, hexits _ _ hrun houtcome⟩
  · obtain hover | ⟨-, hnever⟩ := hends _ attends_terminatedCourse hfair
    · exact hover
    · exact absurd (by cbv) (hnever 4 .terminate)

end Beacon
