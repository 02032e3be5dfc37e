import Beacon.Proofs.Daemon.Listeners
import Beacon.Proofs.Labels
import Beacon.Proofs.PhaseHistory
import Beacon.Proofs.SocketFiles

/-!
# What is released before a daemon stops

A serving call closes its listener and has its socket file unlinked before it announces that the
daemon has stopped, whatever the file system has become meanwhile. So a daemon with one serving
call serves nothing once it has stopped. Phases do not go back, so this says nothing about a second
call.
-/

namespace Beacon

theorem Phase.eq_stopped_of_rank {phase : Phase} (h : Phase.stopped.rank ≤ phase.rank) :
    phase = .stopped := by
  cases phase <;> first | rfl | exact absurd h (by decide)

theorem Stage.isOpen_of_ownsFile {stage : Stage} (h : stage.ownsFile = false) :
    stage.isOpen = false :=
  Bool.eq_false_iff.mpr fun hopen => Bool.eq_false_iff.mp h (ownsFile_of_isOpen hopen)

/-- A call that has announced the last phase, or was cancelled, owns nothing. -/
theorem Task.HasLeft.ownsFile_eq_false {task : Task} (h : task.HasLeft) :
    task.stage.ownsFile = false := by
  obtain ⟨-, hstage⟩ := h
  cases hat : task.stage <;> rw [hat] at hstage <;> first | rfl | simp [Stage.floor] at hstage

namespace Custody

variable {c c' : Custody} {move : Daemon.Move} {file : SocketFile}

/-! ## What an unlink reports -/

theorem log_afterEnd_dropFile (d : Daemon) (host : Host) {endpoint : Endpoint}
    (h : endpoint.socketFile? = some file) :
    (d.afterEnd (endpoint.dropFile host)).log =
      d.log ++ (guardUnlink host.files file.path).events := by
  cases endpoint with
  | tcp port => cases h
  | unix socket path =>
      cases h
      rfl

/-- The guard of a call that owns its file reports what has become of it. -/
theorem log_dropTask {d : Daemon} {task : Task} (h : task.socketFile? = some file) :
    (d.dropTask task).log = d.log ++ (guardUnlink d.host.files file.path).events := by
  unfold Task.socketFile? at h
  split at h
  · obtain ⟨endpoint, hendpoint, hfile⟩ := Option.bind_eq_some_iff.mp h
    rw [Daemon.dropTask, hendpoint]
    exact log_afterEnd_dropFile d d.host hfile
  · cases h

theorem log_closeTask (d : Daemon) (task : Task) :
    (d.closeTask task).log = d.log ∧ (d.closeTask task).host.files = d.host.files := by
  unfold Daemon.closeTask
  split <;> exact ⟨rfl, rfl⟩

/-- A move that unlinks a socket file reports what its guard has found, and nothing else. -/
theorem log_of_unlink (h : c.step move = some c')
    (hdeed : c.daemon.deed? move = some (.unlink file)) :
    c'.daemon.log = c.daemon.log ++ (guardUnlink c.files file.path).events := by
  have hmapped : ∀ {file? : Option SocketFile},
      file?.map Daemon.Deed.unlink = some (.unlink file) → file? = some file := by
    intro file? hmap
    obtain ⟨found, hfound, hsame⟩ := Option.map_eq_some_iff.mp hmap
    cases hsame
    exact hfound
  cases move with
  | drop endpoint =>
      obtain ⟨-, d, hstep, rfl⟩ := step_of_taken rfl h
      cases hstep
      exact log_afterEnd_dropFile c.daemon (endpoint.close c.host) (hmapped hdeed)
  | release endpoint =>
      obtain ⟨-, d, hstep, rfl⟩ := step_of_taken rfl h
      cases hstep
      change (c.daemon.afterEnd (endpoint.releaseFile (endpoint.close c.host))).log = _
      rw [Endpoint.releaseFile_eq_dropFile]
      exact log_afterEnd_dropFile c.daemon (endpoint.close c.host) (hmapped hdeed)
  | advance i =>
      obtain ⟨task, htask, htaskDeed⟩ := Option.bind_eq_some_iff.mp hdeed
      obtain ⟨found, hfound, hadvance⟩ := Option.bind_eq_some_iff.mp (daemon_step h)
      cases htask.symm.trans hfound
      unfold Daemon.taskDeed? at htaskDeed
      split at htaskDeed
      · obtain ⟨path, -, hsame⟩ := Option.map_eq_some_iff.mp htaskDeed
        cases hsame
      next hstage =>
        rw [Daemon.advanceTask, hstage] at hadvance
        rw [← Option.some.inj hadvance, releaseTask_eq_dropTask]
        exact log_dropTask (hmapped htaskDeed)
      · cases htaskDeed
  | cancel i =>
      obtain ⟨task, htask, hmap⟩ := Option.bind_eq_some_iff.mp hdeed
      obtain ⟨found, hfound, hcancel⟩ := Option.bind_eq_some_iff.mp (daemon_step h)
      cases htask.symm.trans hfound
      have hfile := hmapped hmap
      have howns : task.stage.ownsFile = true := by
        by_contra hlost
        rw [Task.socketFile?, if_neg hlost] at hfile
        cases hfile
      unfold Daemon.cancelTask at hcancel
      split at hcancel
      · cases hcancel
      · rw [← Option.some.inj hcancel]
        obtain ⟨hlog, hfiles⟩ := log_closeTask c.daemon task
        split
        · refine (log_dropTask hfile).trans ?_
          rw [hlog, hfiles]
          rfl
        · exact log_dropTask hfile
  | bind =>
      obtain ⟨path, -, hsame⟩ := Option.map_eq_some_iff.mp hdeed
      cases hsame
  | bindAt transport =>
      obtain ⟨path, -, hsame⟩ := Option.map_eq_some_iff.mp hdeed
      cases hsame
  | _ => cases hdeed

/-- What a move has done to a socket file that it unlinks: the entry at its path is gone, or the
system refused to remove it, which leaves the files as they are and is a warning unless nothing was
there. -/
inductive Unlinks (c : Custody) (file : SocketFile) (c' : Custody) : Prop where
  | removed {location : Location} (hleads : c.files.LeadsTo file.path location)
      (hgone : c'.files.entryAt? location = none)
  | failed {fault : SystemError} (hfault : c.files.unlink file.path = .error fault)
      (hfiles : c'.files = c.files)
      (hlog : c'.daemon.log = c.daemon.log ++
        if fault = .noEntry then [] else [socketFileKept file.path fault])

theorem unlinks_of_step (h : c.step move = some c')
    (hdeed : c.daemon.deed? move = some (.unlink file)) : c.Unlinks file c' := by
  have hfiles := files_of_unlink (effect_of_step h) hdeed
  have hlog := log_of_unlink h hdeed
  unfold guardUnlink at hfiles hlog
  cases hunlink : c.files.unlink file.path with
  | ok files =>
      rw [hunlink] at hfiles
      obtain ⟨location, entry, hleads, -, -, rfl⟩ := FileSystem.leadsTo_of_unlink hunlink
      refine .removed hleads ?_
      rw [hfiles]
      exact FileSystem.entryAt?_erase_self c.files hleads.ne_nil
  | error fault =>
      rw [hunlink] at hfiles hlog
      refine .failed hunlink ?_ ?_
      · rw [hfiles]
        dsimp only
        split <;> rfl
      · rw [hlog]
        dsimp only
        split <;> rfl

/-! ## What is left of an endpoint -/

/-- Nothing of an endpoint is left: its listener is closed, so that what listens at its port, if
something does, is another endpoint, and its socket file, if it had one, was unlinked once. -/
structure Released (c : Custody) (endpoint : Endpoint) : Prop where
  closed : endpoint.listener ∈ c.host.listening →
    ∃ port, endpoint = .tcp port ∧ endpoint.listener ∈ c.listeners
  unlinked : ∀ file, endpoint.socketFile? = some file →
    file ∉ c.live ∧ c.daemon.unlinked.count file = 1

/-- The socket of a listener that has not ended has its file. -/
theorem exists_live_of_listener {socket : Nat} (h : .unix socket ∈ c.listeners) :
    ∃ file ∈ c.live, file.socket = socket := by
  have hunix : ∀ endpoint : Endpoint, endpoint.listener = .unix socket →
      ∃ path, endpoint.socketFile? = some ⟨socket, path⟩ := by
    intro endpoint hlistener
    cases endpoint with
    | tcp port => cases hlistener
    | unix socket path =>
        cases hlistener
        exact ⟨path, rfl⟩
  obtain hheld | htask := List.mem_append.mp h
  · obtain ⟨endpoint, hmem, hlistener⟩ := List.mem_map.mp hheld
    obtain ⟨path, hfile⟩ := hunix endpoint hlistener
    exact ⟨_, List.mem_append_left _ (List.mem_filterMap.mpr ⟨endpoint, hmem, hfile⟩), rfl⟩
  · obtain ⟨task, hmem, hlistener⟩ := List.mem_filterMap.mp htask
    unfold Task.listener? at hlistener
    split at hlistener
    next hopen =>
      obtain ⟨endpoint, hendpoint, hlistener⟩ := Option.map_eq_some_iff.mp hlistener
      obtain ⟨path, hfile⟩ := hunix endpoint hlistener
      refine ⟨⟨socket, path⟩,
        List.mem_append_right _ (List.mem_filterMap.mpr ⟨task, hmem, ?_⟩), rfl⟩
      rw [Task.socketFile?, if_pos (Stage.ownsFile_of_isOpen hopen), hendpoint]
      exact hfile
    · cases hlistener

/-- What holds of endpoints at all times. -/
structure Sound (c : Custody) : Prop where
  daemon : c.daemon.Sound
  accounted : c.Accounted
  closes : c.ClosesBehind

theorem sound_of_runs {allowed : Custody → Daemon.Move → Custody → Prop} {config : Config}
    {identity : Identity} {sink : Sink} {host : Host}
    (hrun : Runs allowed (create config identity sink host) c) : c.Sound :=
  ⟨(Daemon.sound_create config identity sink host).of_reaches (reaches_of_runs hrun),
    (accounted_create config identity sink host).of_runs hrun,
    ClosesBehind.of_runs (by rintro task ⟨⟩) hrun⟩

/-- Nothing is left of the endpoint of a call that does not own its file any more. -/
theorem Sound.released (h : c.Sound) {task : Task} (hmem : task ∈ c.daemon.tasks)
    {endpoint : Endpoint} (hendpoint : task.endpoint = some endpoint)
    (howns : task.stage.ownsFile = false) : c.Released endpoint := by
  have hgone : ∀ file, endpoint.socketFile? = some file → file ∈ c.daemon.unlinked := by
    intro file hfile
    refine (h.daemon.calls task hmem).unlinked file ?_ howns
    rw [hendpoint]
    exact hfile
  refine ⟨fun hlistening => ?_, fun file hfile => ?_⟩
  · have hlistener := h.closes task hmem endpoint hendpoint (Stage.isOpen_of_ownsFile howns)
      hlistening
    cases endpoint with
    | tcp port => exact ⟨port, rfl, hlistener⟩
    | unix socket path =>
        -- No endpoint that has not ended has a socket whose file was unlinked.
        obtain ⟨file, hlive, hsame⟩ := exists_live_of_listener hlistener
        have hnodup := h.accounted.nodup
        rw [known, List.map_append, List.nodup_append] at hnodup
        exact absurd hsame (hnodup.2.2 _ (List.mem_map_of_mem hlive) _
          (List.mem_map_of_mem (hgone _ rfl)))
  · obtain ⟨-, hcount⟩ | hdead := h.accounted.fate (List.mem_append_right _ (hgone file hfile))
    · exact absurd (hgone file hfile) (List.count_eq_zero.mp hcount)
    · exact hdead

/-- A daemon has stopped once a call with an endpoint has returned, and the call has told its own
verdict. -/
theorem Sound.stopped_of_returned (h : c.Sound) {task : Task} (hmem : task ∈ c.daemon.tasks)
    (hendpoint : task.endpoint.isSome) {result : Except DaemonError Trigger}
    (hstage : task.stage = .returned result) :
    c.daemon.phase = .stopped ∧ task.verdict? = some result := by
  have hcall := h.daemon.calls task hmem
  have hcoheres := hcall.coheres
  rw [Task.Coheres, hstage] at hcoheres
  have hverdict := hcoheres.1 hendpoint
  have hfloor := hcall.stage
  rw [hstage, Task.floor_of_verdict hverdict] at hfloor
  exact ⟨Phase.eq_stopped_of_rank hfloor, hverdict⟩

/-- A daemon that has stopped has a call that has left, and nothing of its endpoint is left. -/
theorem Sound.exists_released (h : c.Sound) (hstopped : c.daemon.phase = .stopped) :
    ∃ task ∈ c.daemon.tasks, ∃ endpoint,
      task.HasLeft ∧ task.endpoint = some endpoint ∧ c.Released endpoint := by
  obtain ⟨task, hmem, hleft⟩ := h.daemon.left hstopped
  obtain ⟨endpoint, hendpoint⟩ := Option.isSome_iff_exists.mp hleft.1
  exact ⟨task, hmem, endpoint, hleft, hendpoint,
    h.released hmem hendpoint hleft.ownsFile_eq_false⟩

/-- Whatever a guard finds, its call goes on, and only its stage has changed. -/
theorem step_of_closed {i : Nat} {task : Task} (htask : c.daemon.tasks[i]? = some task)
    (hstage : task.stage = .closed) :
    ∃ c', c.step (.advance i) = some c' ∧
      c'.daemon.tasks = c.daemon.tasks.set i { task with stage := .released } := by
  have hstep : c.daemon.step (.advance i) =
      some ((c.daemon.releaseTask task).setStage i .released) := by
    rw [Daemon.step, htask, Option.bind_some, Daemon.advanceTask, hstage]
  refine ⟨⟨(c.daemon.releaseTask task).setStage i .released, c.held⟩, ?_, ?_⟩
  · change (c.daemon.step (.advance i)).map _ = _
    rw [hstep]
    exact congrArg (fun held => some (Custody.mk _ held)) (List.append_nil _)
  · have htasks : (c.daemon.releaseTask task).tasks = c.daemon.tasks := by
      rw [releaseTask_eq_dropTask, tasks_dropTask]
    rw [Daemon.setStage, Daemon.tasks_updateTask (htasks ▸ htask), htasks]

/-! ## Calls that have returned -/

/-- Whatever happens beside it, a call that returns has left nothing of its endpoint, and the daemon
has stopped by then. A daemon with one call is not stopped before that. Each unlink removes the
entry at its path or is refused, which is a warning at most; the call goes on in either case, and
what it returns is its own verdict, which no guard has a part in. -/
theorem endpoint_released_before_stopped {allowed : Custody → Daemon.Move → Custody → Prop}
    {config : Config} {identity : Identity} {sink : Sink} {host : Host} {c : Custody}
    (hrun : Runs allowed (create config identity sink host) c) :
    (∀ task ∈ c.daemon.tasks, ∀ endpoint result,
      task.endpoint = some endpoint → task.stage = .returned result →
        c.Released endpoint ∧ c.daemon.phase = .stopped ∧ task.verdict? = some result) ∧
      (c.daemon.tasks.length ≤ 1 → c.daemon.phase = .stopped → ∃ task endpoint,
        c.daemon.tasks = [task] ∧ task.endpoint = some endpoint ∧ c.Released endpoint) ∧
      (∀ move c' file, c.step move = some c' → c.daemon.deed? move = some (.unlink file) →
        c.Unlinks file c') ∧
      ∀ i task, c.daemon.tasks[i]? = some task → task.stage = .closed →
        ∃ c', c.step (.advance i) = some c' ∧
          c'.daemon.tasks = c.daemon.tasks.set i { task with stage := .released } := by
  have hsound : c.Sound := sound_of_runs hrun
  refine ⟨fun task hmem endpoint result hendpoint hstage => ?_, fun hone hstopped => ?_,
    fun move c' file hstep hdeed => unlinks_of_step hstep hdeed,
    fun i task htask hstage => step_of_closed htask hstage⟩
  · have howns : task.stage.ownsFile = false := by
      rw [hstage]
      rfl
    exact ⟨hsound.released hmem hendpoint howns,
      hsound.stopped_of_returned hmem (hendpoint ▸ rfl) hstage⟩
  · obtain ⟨task, hmem, endpoint, -, hendpoint, hreleased⟩ := hsound.exists_released hstopped
    obtain ⟨single, hsingle⟩ :=
      List.length_eq_one_iff.mp (Nat.le_antisymm hone (List.length_pos_of_mem hmem))
    rw [hsingle] at hmem
    obtain rfl := List.mem_singleton.mp hmem
    exact ⟨task, endpoint, hsingle, hendpoint, hreleased⟩

/-- A daemon for a socket path, on a host without files. -/
def onSocket : Custody :=
  create ⟨.unix [0x73], "unknown", "unknown"⟩ .cache .logged (.idle ⟨[], []⟩ true)

/-- A call binds and serves a socket file until a stop is requested; somebody removes the file
before it is unlinked. -/
def vanished : Custody :=
  onSocket.after
    [.run, .advance 0, .advance 0, .advance 0, .advance 0, .requestStop, .watch 0 .requested,
      .watch 0 .requested, .watch 0 .requested, .advance 0, .meddle ⟨[], []⟩, .advance 0,
      .advance 0, .advance 0, .advance 0, .advance 0]

/-- A call whose socket file cannot be unlinked, as it is gone already, returns what it would return
otherwise. -/
theorem vanished_is_released :
    vanished.daemon.tasks = [⟨some (.unix 1 [0x73]), .returned (.ok .requested),
        .handed .requested, none, none, false⟩] ∧
      vanished.Released (.unix 1 [0x73]) ∧ vanished.daemon.phase = .stopped := by
  have htasks : vanished.daemon.tasks = [⟨some (.unix 1 [0x73]), .returned (.ok .requested),
      .handed .requested, none, none, false⟩] := by
    cbv
  have hrun : Runs (fun _ _ _ => True) onSocket vanished := runs_after onSocket _
  obtain ⟨hreturned, -⟩ := endpoint_released_before_stopped hrun
  obtain ⟨hreleased, hstopped, -⟩ :=
    hreturned _ (htasks ▸ List.mem_singleton_self _) (.unix 1 [0x73]) (.ok .requested) rfl rfl
  exact ⟨htasks, hreleased, hstopped⟩

/-! ## Daemons that have stopped -/

/-- A client whose exchange gets no answer comes to a failure. -/
theorem call_fails {address : Address} {limit : Duration}
    {connected : Except SystemError Client.Peer} (h : ∀ respond, connected ≠ .ok (.answers respond))
    (call : Client.Call) :
    ∃ failure, (Client.call address limit connected call).result = .error failure := by
  have hrequest : ∀ method path grammar, ∃ failure,
      (Client.request address limit connected method path grammar).result = .error failure := by
    intro method path grammar
    unfold Client.request
    cases connected with
    | error fault => exact ⟨_, rfl⟩
    | ok peer =>
        cases peer with
        | answers respond => exact absurd rfl (h respond)
        | silent =>
            dsimp only
            split
            · exact ⟨_, rfl⟩
            · split <;> exact ⟨_, rfl⟩
  cases call with
  | health =>
      obtain ⟨failure, hfailure⟩ := hrequest .get "/health" .strict
      refine ⟨failure, ?_⟩
      change (((Client.request address limit connected .get "/health").result.bind _).bind _).bind
        _ = _
      rw [hfailure]
      rfl
  | info =>
      obtain ⟨failure, hfailure⟩ := hrequest .get "/" .strict
      refine ⟨failure, ?_⟩
      change (((Client.request address limit connected .get "/").result.bind _).bind _).bind _ = _
      rw [hfailure]
      rfl
  | request method path grammar =>
      obtain ⟨failure, hfailure⟩ := hrequest method path grammar
      refine ⟨failure, ?_⟩
      change (Client.request address limit connected method path grammar).result.bind _ = _
      rw [hfailure]
      rfl

/-- What is sent to a listener that is not served is not recorded. -/
theorem sink_deliver {d : Daemon} {listener : Listener} (h : d.isServed listener = false)
    (sent : Octets) : (d.deliver listener sent).sink = d.sink := by
  rw [Daemon.deliver, h]
  rfl

/-- A daemon that serves nothing answers no request, and records none. -/
theorem call_of_not_served {d : Daemon} (h : ∀ listener, d.isServed listener = false)
    (address : Address) (limit : Duration) (call : Client.Call) :
    (∃ failure, (d.call address limit call).1 = .error failure) ∧
      (d.call address limit call).2.sink = d.sink := by
  refine ⟨call_fails (fun respond hconnected => ?_) call, ?_⟩
  · unfold Daemon.peerAt at hconnected
    split at hconnected
    · cases hconnected
    next listener _ =>
      rw [h listener] at hconnected
      cases hconnected
  · unfold Daemon.call Daemon.receive
    dsimp only
    split
    next listener peer sent _ _ => exact @sink_deliver (d.report _) listener (h listener) sent
    · rfl

/-- A daemon serves nothing if no call of it owns a listener. -/
theorem isServed_eq_false {d : Daemon} (h : ∀ task ∈ d.tasks, task.stage.isOpen = false)
    (listener : Listener) : d.isServed listener = false := by
  unfold Daemon.isServed
  rw [List.any_eq_false]
  intro task hmem hserved
  have hclosed := h task hmem
  split at hserved
  next hstage _ =>
    rw [hstage] at hclosed
    cases hclosed
  · cases hserved

/-- Once a daemon has stopped, a call of it has left with nothing of its endpoint behind, and the
daemon is stopped for good. With no other call, nothing is served, no request is answered, and no
call waits for a trigger. -/
theorem nothing_served_when_stopped {allowed : Custody → Daemon.Move → Custody → Prop}
    {config : Config} {identity : Identity} {sink : Sink} {host : Host} {c : Custody}
    (hrun : Runs allowed (create config identity sink host) c)
    (hstopped : c.daemon.phase = .stopped) :
    (∃ task ∈ c.daemon.tasks, ∃ endpoint,
      task.HasLeft ∧ task.endpoint = some endpoint ∧ c.Released endpoint) ∧
      (∀ d', c.daemon.Reaches d' → d'.phase = .stopped) ∧
      (c.daemon.tasks.length ≤ 1 →
        (∀ task ∈ c.daemon.tasks, task.stage.isOpen = false) ∧
          (∀ listener, c.daemon.isServed listener = false) ∧
          ∀ address limit call,
            (∃ failure, (c.daemon.call address limit call).1 = .error failure) ∧
              (c.daemon.call address limit call).2.sink = c.daemon.sink) := by
  have hsound : c.Sound := sound_of_runs hrun
  refine ⟨hsound.exists_released hstopped, fun d' hlater => ?_, fun hone => ?_⟩
  · have hsame := hsound.daemon.history_of_stopped hlater hstopped
    exact (congrArg Prod.fst hsame).trans hstopped
  · obtain ⟨task, hmem, -, hleft, -⟩ := hsound.exists_released hstopped
    obtain ⟨single, hsingle⟩ :=
      List.length_eq_one_iff.mp (Nat.le_antisymm hone (List.length_pos_of_mem hmem))
    have hclosed : ∀ other ∈ c.daemon.tasks, other.stage.isOpen = false := by
      intro other hother
      rw [hsingle] at hmem hother
      obtain rfl := List.mem_singleton.mp hmem
      obtain rfl := List.mem_singleton.mp hother
      exact Stage.isOpen_of_ownsFile hleft.ownsFile_eq_false
    have hserved := isServed_eq_false hclosed
    exact ⟨hclosed, hserved, call_of_not_served hserved⟩

/-- A daemon with one call answers no health request once it has stopped. -/
theorem vanished_serves_nothing :
    vanished.daemon.phase = .stopped ∧ (∀ listener, vanished.daemon.isServed listener = false) ∧
      ∃ failure, (vanished.daemon.call (.unix [0x73]) Client.defaultLimit .health).1 =
        .error failure := by
  have hstopped : vanished.daemon.phase = .stopped := by cbv
  have hone : vanished.daemon.tasks.length = 1 := by cbv
  have hrun : Runs (fun _ _ _ => True) onSocket vanished := runs_after onSocket _
  obtain ⟨-, -, hnothing⟩ := nothing_served_when_stopped hrun hstopped
  obtain ⟨-, hserved, hcalls⟩ := hnothing (Nat.le_of_eq hone)
  exact ⟨hstopped, hserved, (hcalls (.unix [0x73]) Client.defaultLimit .health).1⟩

/-- A daemon binds and serves its socket path until an interrupt comes, and once it has stopped it
binds and serves it again. -/
def servedAgain : Custody :=
  onSocket.after
    [.bind, .announce, .serve (.unix 1 [0x73]), .advance 0, .advance 0, .advance 0,
      .interrupt 0 .interrupt, .watch 0 .interrupt, .watch 0 .interrupt, .watch 0 .interrupt,
      .advance 0, .advance 0, .advance 0, .advance 0, .advance 0, .advance 0, .bind, .announce,
      .serve (.unix 2 [0x73]), .advance 1, .advance 1, .advance 1]

/-- A daemon that serves again after it has stopped is stopped all the while: its second call waits
for a trigger, and a client is answered. -/
theorem stopped_is_served_again :
    Runs (fun _ _ _ => True) onSocket servedAgain ∧
      servedAgain.daemon.phase = .stopped ∧
      servedAgain.daemon.tasks =
        [⟨some (.unix 1 [0x73]), .returned (.ok .interrupt), .handed .interrupt, some .interrupt,
            none, false⟩,
          ⟨some (.unix 2 [0x73]), .accepting, .waiting, none, none, false⟩] ∧
      servedAgain.daemon.isServed (.unix 2) = true ∧
      (servedAgain.daemon.call (.unix [0x73]) Client.defaultLimit .health).1 =
        .ok (.health ⟨"ok", "rust-cache"⟩) := by
  have hserved : servedAgain.daemon.isServed (.unix 2) = true := by cbv
  have hserves : servedAgain.daemon.Serves (.unix [0x73]) := ⟨.unix 2, by cbv, hserved⟩
  have hservice : servedAgain.daemon.service =
      .ofConfig .cache ⟨.unix [0x73], "unknown", "unknown"⟩ := by cbv
  have hlength : (Utf8.octets (servedAgain.daemon.service.body .health)).length ≤
      Http.maxBodyLength := by
    rw [hservice]
    decide
  refine ⟨runs_after _ _, by cbv, by cbv, hserved, ?_⟩
  rw [Daemon.call_of_serves hserves, Daemon.call_health (by decide) hlength, hservice]
  rfl

end Custody

end Beacon
