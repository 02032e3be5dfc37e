import Beacon.Proofs.Daemon.Standing

/-!
# Watchers and what is told of them

A watcher goes its way by its own steps and by nothing else, but for the beginning of the accept
loop and the panic of the interrupt. The log tells of a shutdown when a watcher takes a trigger,
and of no other: the shutdowns in the log are the triggers that were taken.
-/

namespace Beacon

/-! ## Who reports -/

theorem source_of_guardUnlink {files : FileSystem} {path : Path} {event : Log.Event}
    (h : event ∈ (guardUnlink files path).events) : event.source = .transport := by
  unfold guardUnlink at h
  split at h
  · rw [List.mem_singleton.mp h]
    rfl
  · split at h
    · cases h
    · rw [List.mem_singleton.mp h]
      rfl

theorem source_of_clearPath {files cleared : FileSystem} {path : Path} {events : List Log.Event}
    (h : clearPath files path = .ok (cleared, events)) {event : Log.Event} (hmem : event ∈ events) :
    event.source = .transport := by
  unfold clearPath at h
  split at h
  · cases h
    rw [List.mem_singleton.mp hmem]
    rfl
  · split at h
    · cases h
      cases hmem
    · cases h

theorem source_of_bindTransport {host : Host} {transport : Transport} {event : Log.Event}
    (h : event ∈ (bindTransport host transport).events) : event.source = .transport := by
  have htcp : ∀ port, event ∈ (bindTcp host port).events → event.source = .transport := by
    intro port hmem
    unfold bindTcp at hmem
    split at hmem
    · cases hmem
    · rw [List.mem_singleton.mp hmem]
      rfl
  cases transport with
  | tcp port => exact htcp port h
  | defaultTcp => exact htcp defaultPort h
  | unix path =>
      change event ∈ (bindUnix host path).events at h
      unfold bindUnix at h
      split at h
      · cases h
      next hclear =>
        dsimp only at h
        split at h
        · exact source_of_clearPath hclear h
        · split at h
          · rcases List.mem_append.mp h with hmem | hmem
            · exact source_of_clearPath hclear hmem
            · exact source_of_guardUnlink hmem
          · rcases List.mem_append.mp h with hmem | hmem
            · exact source_of_clearPath hclear hmem
            · rw [List.mem_singleton.mp hmem]
              rfl

theorem source_of_dropFile {host : Host} {endpoint : Endpoint} {event : Log.Event}
    (h : event ∈ (endpoint.dropFile host).events) : event.source = .transport := by
  cases endpoint with
  | tcp port => cases h
  | unix socket path => exact source_of_guardUnlink h

theorem source_of_recordAll {sink : Sink} {records : List Record} {event : Log.Event}
    (h : event ∈ (sink.recordAll records).2) : event.source = .requests := by
  induction records generalizing sink with
  | nil => cases h
  | cons entry rest ih =>
      rcases List.mem_append.mp h with hmem | hmem
      · cases sink with
        | kept window => cases hmem
        | logged =>
            rw [List.mem_singleton.mp hmem]
            rfl
      · exact ih hmem

theorem source_of_call {address : Address} {limit : Duration}
    {connected : Except SystemError Client.Peer} {call : Client.Call} {event : Log.Event}
    (h : event ∈ (Client.call address limit connected call).events) : event.source = .client := by
  have hrequest : ∀ {method path grammar},
      event ∈ (Client.request address limit connected method path grammar).events →
        event.source = .client := by
    intro method path grammar hmem
    unfold Client.request at hmem
    split at hmem
    · cases hmem
    · split at hmem
      · cases hmem
      · dsimp only at hmem
        split at hmem
        · rw [List.mem_singleton.mp hmem]
          rfl
        · split at hmem
          · rw [List.mem_singleton.mp hmem]
            rfl
          · rw [List.mem_singleton.mp hmem]
            rfl
  cases call with
  | health => exact hrequest h
  | info => exact hrequest h
  | request method path grammar => exact hrequest h

/-- Whether an event tells of a shutdown that begins. -/
def Log.Event.isShutdown (event : Log.Event) : Bool :=
  event.source = .daemon && event.message = "shutting down"

theorem Log.Event.isShutdown_of_source {event : Log.Event} {source : Log.Source}
    (h : event.source = source) (hother : source ≠ .daemon) : event.isShutdown = false := by
  rw [isShutdown, h, decide_eq_false hother, Bool.false_and]

namespace Daemon

def shutdowns (d : Daemon) : List Log.Event :=
  d.log.filter Log.Event.isShutdown

/-- The triggers that the watchers of all calls have taken. -/
def taken (d : Daemon) : List Trigger :=
  d.tasks.filterMap fun task => task.watcher.trigger?

/-- Two daemons of one identity that have told of the same shutdowns. -/
structure Quiet (d d' : Daemon) : Prop where
  identity : d'.identity = d.identity
  shutdowns : d'.shutdowns = d.shutdowns

variable {d d' d'' : Daemon} {i : Nat} {task task' : Task} {move : Move}

theorem Quiet.refl (d : Daemon) : d.Quiet d :=
  ⟨rfl, rfl⟩

theorem Quiet.trans (h : d.Quiet d') (h' : d'.Quiet d'') : d.Quiet d'' :=
  ⟨h'.identity.trans h.identity, h'.shutdowns.trans h.shutdowns⟩

/-- A daemon is quiet if it reports other events. -/
theorem Quiet.of_log {events : List Log.Event} (hidentity : d'.identity = d.identity)
    (hlog : d'.log = d.log ++ events) (h : ∀ event ∈ events, event.isShutdown = false) :
    d.Quiet d' := by
  refine ⟨hidentity, ?_⟩
  have hnone : events.filter Log.Event.isShutdown = [] := by
    rw [List.filter_eq_nil_iff]
    intro event hmem
    rw [h event hmem]
    exact Bool.false_ne_true
  rw [Daemon.shutdowns, hlog, List.filter_append, hnone, List.append_nil]
  rfl

theorem quiet_of_same (hidentity : d'.identity = d.identity) (hlog : d'.log = d.log) :
    d.Quiet d' :=
  .of_log hidentity (hlog.trans (List.append_nil _).symm) (by rintro event ⟨⟩)

/-! ## What is quiet -/

theorem quiet_report (d : Daemon) {events : List Log.Event}
    (h : ∀ event ∈ events, event.isShutdown = false) : d.Quiet (d.report events) :=
  .of_log rfl rfl h

theorem quiet_announce (d : Daemon) (next : Phase) : d.Quiet (d.announce next) := by
  unfold announce
  split
  · refine .of_log rfl rfl fun event hmem => ?_
    rw [List.mem_singleton.mp hmem]
    rfl
  · exact .refl d

theorem quiet_bindUnannounced (d : Daemon) : d.Quiet d.bindUnannounced.2 := by
  have hbinding : ∀ event ∈ d.bindingEvent :: (bindTransport d.host d.config.transport).events,
      event.isShutdown = false := by
    intro event hmem
    rcases List.mem_cons.mp hmem with rfl | hmem
    · rfl
    · exact Log.Event.isShutdown_of_source (source_of_bindTransport hmem) (by decide)
  have hreported := d.quiet_report hbinding
  unfold bindUnannounced
  dsimp only
  split
  · exact hreported.trans (quiet_of_same rfl rfl)
  · refine hreported.trans (.of_log rfl rfl fun event hmem => ?_)
    rw [List.mem_singleton.mp hmem]
    rfl

theorem quiet_closeTask (d : Daemon) (task : Task) : d.Quiet (d.closeTask task) := by
  unfold closeTask
  split <;> exact quiet_of_same rfl rfl

theorem quiet_afterEnd (d : Daemon) (host : Host) (endpoint : Endpoint) :
    d.Quiet (d.afterEnd (endpoint.dropFile host)) :=
  .of_log rfl rfl fun _ hmem =>
    Log.Event.isShutdown_of_source (source_of_dropFile hmem) (by decide)

theorem quiet_dropTask (d : Daemon) (task : Task) : d.Quiet (d.dropTask task) := by
  unfold dropTask
  split
  · exact d.quiet_afterEnd d.host _
  · exact .refl d

theorem quiet_serveOctets (d : Daemon) (octets : Octets) : d.Quiet (d.serveOctets octets).2 :=
  .of_log rfl rfl fun _ hmem =>
    Log.Event.isShutdown_of_source (source_of_recordAll hmem) (by decide)

theorem quiet_serveWaiting (d : Daemon) (listener : Listener) :
    d.Quiet (d.serveWaiting listener) := by
  have hfold : ∀ (waiting : List Octets) (d : Daemon),
      d.Quiet (waiting.foldl (fun d octets => (d.serveOctets octets).2) d) := by
    intro waiting
    induction waiting with
    | nil => exact Quiet.refl
    | cons octets waiting ih => exact fun d => (d.quiet_serveOctets octets).trans (ih _)
  have haccepted : d.Quiet { d with host := d.host.accept listener } := quiet_of_same rfl rfl
  exact haccepted.trans (hfold (d.host.waitingAt listener) _)

theorem quiet_call (d : Daemon) (address : Address) (limit : Duration) (call : Client.Call) :
    d.Quiet (d.call address limit call).2 := by
  have hreported : d.Quiet (d.report
      (Client.call address limit ((d.peerAt address).map (·.2)) call).events) :=
    d.quiet_report fun _ hmem => Log.Event.isShutdown_of_source (source_of_call hmem) (by decide)
  refine hreported.trans ?_
  unfold Daemon.call receive
  dsimp only
  split
  · unfold deliver
    split
    · exact quiet_serveOctets _ _
    · exact quiet_of_same rfl rfl
  · exact .refl _

theorem quiet_bindTask (d : Daemon) (i : Nat) : d.Quiet (d.bindTask i) := by
  have hbind := d.quiet_bindUnannounced
  unfold bindTask
  split
  next hresult =>
    rw [hresult] at hbind
    exact hbind.trans (quiet_of_same rfl rfl)
  next hresult =>
    rw [hresult] at hbind
    exact hbind.trans (quiet_of_same rfl rfl)

theorem quiet_openTask (d : Daemon) (i : Nat) (task : Task) : d.Quiet (d.openTask i task) := by
  have hopened : d.Quiet (d.updateTask i fun task =>
      { task with stage := .accepting, watcher := .waiting }) := quiet_of_same rfl rfl
  unfold openTask
  dsimp only
  split
  · exact hopened.trans (quiet_serveWaiting _ _)
  · exact hopened

theorem quiet_of_advance (hstep : d.advanceTask i task = some d') : d.Quiet d' := by
  unfold advanceTask at hstep
  cases hstage : task.stage with
  | binding =>
      rw [hstage] at hstep
      cases hstep
      exact d.quiet_bindTask i
  | entering =>
      rw [hstage] at hstep
      cases hstep
      exact (d.quiet_announce .bound).trans (quiet_of_same rfl rfl)
  | announced =>
      rw [hstage] at hstep
      cases hstep
      exact (d.quiet_announce .serving).trans (quiet_of_same rfl rfl)
  | opening =>
      rw [hstage] at hstep
      cases hstep
      exact d.quiet_openTask i task
  | accepting =>
      rw [hstage] at hstep
      dsimp only at hstep
      split at hstep
      · cases hstep
        exact (d.quiet_closeTask task).trans (quiet_of_same rfl rfl)
      · cases hstep
  | closed =>
      rw [hstage] at hstep
      cases hstep
      rw [Custody.releaseTask_eq_dropTask]
      exact (d.quiet_dropTask task).trans (quiet_of_same rfl rfl)
  | released =>
      rw [hstage] at hstep
      cases hstep
      exact (d.quiet_announce .shuttingDown).trans (quiet_of_same rfl rfl)
  | leaving =>
      rw [hstage] at hstep
      cases hstep
      exact (d.quiet_announce .stopped).trans (quiet_of_same rfl rfl)
  | left =>
      rw [hstage] at hstep
      cases hstep
      refine .of_log rfl rfl fun event hmem => ?_
      rw [List.mem_singleton.mp hmem]
      rfl
  | reported =>
      rw [hstage] at hstep
      obtain ⟨result, -, rfl⟩ := Option.map_eq_some_iff.mp hstep
      exact quiet_of_same rfl rfl
  | returned result =>
      rw [hstage] at hstep
      cases hstep
  | cancelled =>
      rw [hstage] at hstep
      cases hstep

theorem quiet_of_watch {trigger : Trigger} (hstep : d.advanceWatcher i task trigger = some d')
    (hbusy : task.watcher ≠ .waiting) : d.Quiet d' := by
  unfold advanceWatcher at hstep
  cases hwatcher : task.watcher with
  | waiting => exact absurd hwatcher hbusy
  | reported taken =>
      rw [hwatcher] at hstep
      cases hstep
      exact (d.quiet_announce .shuttingDown).trans (quiet_of_same rfl rfl)
  | announced taken =>
      rw [hwatcher] at hstep
      cases hstep
      exact quiet_of_same rfl rfl
  | _ =>
      rw [hwatcher] at hstep
      cases hstep

theorem quiet_of_cancel (hstep : d.cancelTask i task = some d') : d.Quiet d' := by
  unfold cancelTask at hstep
  split at hstep
  · cases hstep
  · cases hstep
    have hclosed : d.Quiet (if task.stage.isOpen then d.closeTask task else d) := by
      split
      · exact d.quiet_closeTask task
      · exact .refl d
    split
    · exact (hclosed.trans (quiet_dropTask _ task)).trans (quiet_of_same rfl rfl)
    · exact hclosed.trans (quiet_of_same rfl rfl)

/-- Whether a watcher that waits takes a trigger in a move. -/
def Wakes (d : Daemon) (move : Move) : Prop :=
  ∃ i trigger task, move = .watch i trigger ∧ d.tasks[i]? = some task ∧ task.watcher = .waiting

/-- The log tells of a shutdown only when a watcher takes a trigger. -/
theorem quiet_of_step (h : d.step move = some d') (hwakes : ¬ d.Wakes move) : d.Quiet d' := by
  cases move with
  | bind =>
      cases h
      obtain ⟨count, hbegin⟩ := d.beginBind_eq
      rw [hbegin]
      exact d.quiet_bindUnannounced.trans (quiet_of_same rfl rfl)
  | announce =>
      obtain ⟨count, rfl⟩ := endBind_eq h
      have hcounted : d.Quiet { d with unannounced := count } := quiet_of_same rfl rfl
      exact hcounted.trans (quiet_announce _ _)
  | bindAt transport =>
      cases h
      exact .of_log rfl rfl fun _ hmem =>
        Log.Event.isShutdown_of_source (source_of_bindTransport hmem) (by decide)
  | serve endpoint =>
      cases h
      exact quiet_of_same rfl rfl
  | run =>
      cases h
      exact quiet_of_same rfl rfl
  | requestStop =>
      cases h
      exact quiet_of_same rfl rfl
  | interrupt j trigger =>
      cases h
      exact quiet_of_same rfl rfl
  | advance j =>
      obtain ⟨found, -, hstep⟩ := Option.bind_eq_some_iff.mp h
      exact quiet_of_advance hstep
  | watch j trigger =>
      obtain ⟨found, hfound, hstep⟩ := Option.bind_eq_some_iff.mp h
      exact quiet_of_watch hstep fun hwaiting => hwakes ⟨j, trigger, found, rfl, hfound, hwaiting⟩
  | fail j fault =>
      obtain ⟨found, -, hstep⟩ := Option.bind_eq_some_iff.mp h
      unfold failTask at hstep
      split at hstep
      · cases hstep
        exact quiet_of_same rfl rfl
      · cases hstep
        exact (d.quiet_closeTask found).trans (quiet_of_same rfl rfl)
      · cases hstep
  | panic j =>
      obtain ⟨found, -, hstep⟩ := Option.bind_eq_some_iff.mp h
      unfold panicTask at hstep
      split at hstep
      · cases hstep
        exact quiet_of_same rfl rfl
      · cases hstep
  | cancel j =>
      obtain ⟨found, -, hstep⟩ := Option.bind_eq_some_iff.mp h
      exact quiet_of_cancel hstep
  | call address limit call =>
      cases h
      exact d.quiet_call address limit call
  | drop endpoint =>
      cases h
      exact d.quiet_afterEnd _ endpoint
  | release endpoint =>
      cases h
      change d.Quiet (d.afterEnd (endpoint.releaseFile (endpoint.close d.host)))
      rw [Endpoint.releaseFile_eq_dropFile]
      exact d.quiet_afterEnd _ endpoint
  | meddle files =>
      cases h
      exact quiet_of_same rfl rfl

/-! ## The ways of a watcher -/

/-- What becomes of the watcher of a call in a move. -/
inductive Heeds (d : Daemon) (move : Move) (i : Nat) (task : Task) : Watcher → Prop where
  | stays : Heeds d move i task task.watcher
  | starts (hstage : task.stage = .opening) : Heeds d move i task .waiting
  | takes {trigger : Trigger} (hmove : move = .watch i trigger)
      (hwaiting : task.watcher = .waiting) (htrigger : trigger ∈ d.triggers task) :
      Heeds d move i task (.reported trigger)
  | warns {trigger : Trigger} (hreported : task.watcher = .reported trigger) :
      Heeds d move i task (.announced trigger)
  | hands {trigger : Trigger} (hannounced : task.watcher = .announced trigger) :
      Heeds d move i task (.handed trigger)
  | vanishes (hmove : move = .panic i) (hwaiting : task.watcher = .waiting) :
      Heeds d move i task .lost

theorem eq_of_update {d₁ : Daemon} {change : Task → Task} (htask : d.tasks[i]? = some task)
    (htasks : d₁.tasks = d.tasks) (hafter : (d₁.updateTask i change).tasks[i]? = some task') :
    task' = change task := by
  obtain ⟨before, hbefore, rfl⟩ := eq_of_updateTask hafter
  rw [htasks, htask] at hbefore
  cases hbefore
  rfl

theorem heeds_of_advance (htask : d.tasks[i]? = some task)
    (hstep : d.advanceTask i task = some d') (hafter : d'.tasks[i]? = some task') :
    d.Heeds move i task task'.watcher := by
  have hput : ∀ {d₁ : Daemon} {stage : Stage}, d' = d₁.setStage i stage → d₁.tasks = d.tasks →
      d.Heeds move i task task'.watcher := by
    intro d₁ stage hsame htasks
    rw [hsame] at hafter
    rw [eq_of_update htask htasks hafter]
    exact .stays
  unfold advanceTask at hstep
  cases hstage : task.stage with
  | binding =>
      rw [hstage] at hstep
      cases hstep
      have htasks := d.bind_keeps.2.2
      unfold bindTask at hput hafter
      split at hput
      next hresult =>
        rw [hresult] at htasks hafter
        rw [eq_of_update htask htasks hafter]
        exact .stays
      next hresult =>
        rw [hresult] at htasks
        exact hput rfl htasks
  | entering =>
      rw [hstage] at hstep
      cases hstep
      exact hput rfl (tasks_announce d _)
  | announced =>
      rw [hstage] at hstep
      cases hstep
      exact hput rfl (tasks_announce d _)
  | opening =>
      rw [hstage] at hstep
      cases hstep
      rw [(takes_openTask htask hstage).tasks,
        List.getElem?_set_self (List.getElem?_eq_some_iff.mp htask).1] at hafter
      cases hafter
      exact .starts hstage
  | accepting =>
      rw [hstage] at hstep
      dsimp only at hstep
      split at hstep
      · cases hstep
        exact hput rfl (d.tasks_closeTask task)
      · cases hstep
  | closed =>
      rw [hstage] at hstep
      cases hstep
      rw [Custody.releaseTask_eq_dropTask] at hput
      exact hput rfl (Custody.tasks_dropTask d task)
  | released =>
      rw [hstage] at hstep
      cases hstep
      exact hput rfl (tasks_announce d _)
  | leaving =>
      rw [hstage] at hstep
      cases hstep
      exact hput rfl (tasks_announce d _)
  | left =>
      rw [hstage] at hstep
      cases hstep
      exact hput rfl rfl
  | reported =>
      rw [hstage] at hstep
      obtain ⟨result, -, hsame⟩ := Option.map_eq_some_iff.mp hstep
      exact hput hsame.symm rfl
  | returned result =>
      rw [hstage] at hstep
      cases hstep
  | cancelled =>
      rw [hstage] at hstep
      cases hstep

theorem heeds_of_watch {trigger : Trigger} (htask : d.tasks[i]? = some task)
    (hstep : d.advanceWatcher i task trigger = some d') (hafter : d'.tasks[i]? = some task') :
    d.Heeds (.watch i trigger) i task task'.watcher := by
  unfold advanceWatcher at hstep
  cases hwatcher : task.watcher with
  | waiting =>
      rw [hwatcher] at hstep
      dsimp only at hstep
      split at hstep
      next htrigger =>
        cases hstep
        rw [eq_of_update htask rfl hafter]
        exact .takes rfl hwatcher htrigger
      · cases hstep
  | reported taken =>
      rw [hwatcher] at hstep
      cases hstep
      rw [eq_of_update htask (tasks_announce d _) hafter]
      exact .warns hwatcher
  | announced taken =>
      rw [hwatcher] at hstep
      cases hstep
      rw [eq_of_update htask rfl hafter]
      exact .hands hwatcher
  | _ =>
      rw [hwatcher] at hstep
      cases hstep

theorem heeds_of_fail {fault : SystemError} (htask : d.tasks[i]? = some task)
    (hstep : d.failTask i task fault = some d') (hafter : d'.tasks[i]? = some task') :
    d.Heeds move i task task'.watcher := by
  unfold failTask at hstep
  split at hstep
  · cases hstep
    rw [eq_of_update htask rfl hafter]
    exact .stays
  · cases hstep
    rw [eq_of_update htask (d.tasks_closeTask task) hafter]
    exact .stays
  · cases hstep

/-- A watcher goes its own way in every move. -/
theorem heeds_of_step (h : d.step move = some d') (htask : d.tasks[i]? = some task)
    (hafter : d'.tasks[i]? = some task') : d.Heeds move i task task'.watcher := by
  cases evolves_of_found h htask hafter with
  | stays => exact .stays
  | interrupted _ => exact .stays
  | turns hmove htakes =>
      cases move with
      | advance j =>
          cases hmove
          obtain ⟨found, hfound, hstep⟩ := Option.bind_eq_some_iff.mp h
          cases htask.symm.trans hfound
          exact heeds_of_advance htask hstep hafter
      | watch j trigger =>
          cases hmove
          obtain ⟨found, hfound, hstep⟩ := Option.bind_eq_some_iff.mp h
          cases htask.symm.trans hfound
          exact heeds_of_watch htask hstep hafter
      | fail j fault =>
          cases hmove
          obtain ⟨found, hfound, hstep⟩ := Option.bind_eq_some_iff.mp h
          cases htask.symm.trans hfound
          exact heeds_of_fail htask hstep hafter
      | panic j =>
          cases hmove
          obtain ⟨found, hfound, hstep⟩ := Option.bind_eq_some_iff.mp h
          cases htask.symm.trans hfound
          unfold panicTask at hstep
          split at hstep
          next hwaits =>
            cases hstep
            rw [eq_of_update htask rfl hafter]
            exact .vanishes rfl hwaits.1
          · cases hstep
      | cancel j =>
          cases hmove
          obtain ⟨found, hfound, hstep⟩ := Option.bind_eq_some_iff.mp h
          cases htask.symm.trans hfound
          rw [(takes_of_cancel htask hstep).tasks,
            List.getElem?_set_self (List.getElem?_eq_some_iff.mp htask).1] at hafter
          cases hafter
          exact .stays
      | _ => cases hmove

end Daemon

end Beacon
