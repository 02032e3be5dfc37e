import Beacon.Proofs.Daemon.Custody

/-!
# The turns of a call

A serving call and its watcher go through the same turns whatever else is under way. Every move
of a daemon is the turn of one call, or the beginning of a call, or leaves the calls as they are.
What holds of all turns holds of every interleaving.
-/

namespace Beacon

/-! ## Turns -/

/-- The stages that follow one another by themselves, with the phase that is announced on the
way. -/
def Stage.next? : Stage → Option (Option Phase × Stage)
  | .entering => some (some .bound, .announced)
  | .announced => some (some .serving, .opening)
  | .released => some (some .shuttingDown, .leaving)
  | .leaving => some (some .stopped, .left)
  | .left => some (none, .reported)
  | _ => none

def Task.listener? (task : Task) : Option Listener :=
  if task.stage.isOpen then task.endpoint.map Endpoint.listener else none

/-- A call that owns a listener owns its file. -/
theorem Stage.ownsFile_of_isOpen {stage : Stage} (h : stage.isOpen = true) :
    stage.ownsFile = true := by
  cases stage with
  | closed => rfl
  | _ => exact h

/-- A turn of a call on a daemon: the phase that it announces, and the call after it. -/
inductive Task.Turn (d : Daemon) (task : Task) : Option Phase → Task → Prop where
  | proceeds {phase : Option Phase} {stage : Stage}
      (hnext : task.stage.next? = some (phase, stage)) :
      Turn d task phase { task with stage := stage }
  /-- The endpoint is bound. -/
  | binds {endpoint : Endpoint} (hstage : task.stage = .binding) :
      Turn d task none { task with endpoint := some endpoint, stage := .entering }
  /-- Nothing is bound. -/
  | refused {failure : DaemonError} (hstage : task.stage = .binding)
      (hfailure : ∀ fault, failure ≠ .serve fault) :
      Turn d task none { task with stage := .returned (.error failure) }
  /-- The accept loop is entered, and the watcher starts. -/
  | opens (hstage : task.stage = .opening) :
      Turn d task none { task with stage := .accepting, watcher := .waiting }
  /-- The accept loop ends. -/
  | closes {trigger : Trigger} (hstage : task.stage = .accepting)
      (hwatcher : task.watcher.answer? = some trigger) :
      Turn d task none { task with stage := .closed }
  /-- The accept loop breaks off. -/
  | breaks {fault : SystemError} (hstage : task.stage = .accepting) :
      Turn d task none { task with stage := .closed, failure := some fault }
  /-- The socket file is unlinked. -/
  | releases (hstage : task.stage = .closed) :
      Turn d task none { task with stage := .released }
  | returns {result : Except DaemonError Trigger} (hstage : task.stage = .reported)
      (hverdict : task.verdict? = some result) :
      Turn d task none { task with stage := .returned result }
  /-- The watcher takes a trigger. -/
  | wakes {trigger : Trigger} (hwatcher : task.watcher = .waiting)
      (htrigger : trigger ∈ d.triggers task) :
      Turn d task none { task with watcher := .reported trigger }
  | warns {trigger : Trigger} (hwatcher : task.watcher = .reported trigger) :
      Turn d task (some .shuttingDown) { task with watcher := .announced trigger }
  /-- The watcher hands its trigger over. -/
  | hands {trigger : Trigger} (hwatcher : task.watcher = .announced trigger) :
      Turn d task none { task with watcher := .handed trigger }
  /-- The watcher is lost. -/
  | loses (hwatcher : task.watcher = .waiting) (hinterrupt : task.interrupt = none) :
      Turn d task none { task with watcher := .lost }
  | cancels (hstage : task.stage.isOver = false) :
      Turn d task none { task with stage := .cancelled }

/-- What becomes of the open listeners of a host when somebody who owned the first listener owns
the second one instead. -/
inductive Host.Listens (before after : Host) : Option Listener → Option Listener → Prop where
  | keeps {owned : Option Listener} (hlistening : after.listening = before.listening) :
      Listens before after owned owned
  | opens {listener : Listener} (hport : ∀ port, listener = .tcp port → listener ∉ before.listening)
      (hsocket : ∀ socket, listener = .unix socket → socket = before.nextSocket)
      (hlistening : after.listening = listener :: before.listening) :
      Listens before after none (some listener)
  | closes {listener : Listener}
      (hlistening : after.listening = before.listening.filter (· != listener)) :
      Listens before after (some listener) none

theorem Host.Listens.of_listening {before middle after : Host} {owned owned' : Option Listener}
    (h : before.Listens middle owned owned') (hsame : after.listening = middle.listening) :
    before.Listens after owned owned' := by
  cases h with
  | keeps hlistening => exact .keeps (hsame.trans hlistening)
  | opens hport hsocket hlistening => exact .opens hport hsocket (hsame.trans hlistening)
  | closes hlistening => exact .closes (hsame.trans hlistening)

namespace Daemon

/-- How far a daemon has come, with all phases that it has published. -/
def history (d : Daemon) : Phase × List Phase :=
  (d.phase, d.published)

/-- Announces a phase, if there is one to announce. -/
def announceIf (d : Daemon) : Option Phase → Daemon
  | none => d
  | some phase => d.announce phase

structure Takes (d : Daemon) (i : Nat) (task : Task) (phase : Option Phase) (task' : Task)
    (d' : Daemon) : Prop where
  found : d.tasks[i]? = some task
  turn : task.Turn d phase task'
  tasks : d'.tasks = d.tasks.set i task'
  history : d'.history = (d.announceIf phase).history
  stop : d'.stopRequested = d.stopRequested
  listens : d.host.Listens d'.host task.listener? task'.listener?
  unlinked : d'.unlinked =
    d.unlinked ++ if task'.stage.ownsFile then [] else task.socketFile?.toList

def Move.turn? : Move → Option Nat
  | .advance i | .watch i _ | .fail i _ | .panic i | .cancel i => some i
  | _ => none

/-- What a move makes of the calls of a daemon, of its phases and of its stop flag. -/
inductive Progress (d : Daemon) (move : Move) (d' : Daemon) : Prop where
  | turn {i : Nat} {task task' : Task} {phase : Option Phase} (hmove : move.turn? = some i)
      (htakes : d.Takes i task phase task' d')
  | begins (endpoint : Option Endpoint) (hmove : move.turn? = none)
      (htasks : d'.tasks = d.tasks ++
        [⟨endpoint, if endpoint.isSome then .entering else .binding, .absent, none, none, false⟩])
      (hhistory : d'.history = d.history) (hstop : d'.stopRequested = d.stopRequested)
  | interrupts {i : Nat} {trigger : Trigger} (hmove : move = .interrupt i trigger)
      (htasks : d'.tasks = d.tasks.modify i fun task =>
        { task with interrupt := some (task.interrupt.getD trigger) })
      (hhistory : d'.history = d.history) (hstop : d'.stopRequested = d.stopRequested)
  | announces (hmove : move = .announce) (htasks : d'.tasks = d.tasks)
      (hhistory : d'.history = (d.announce .bound).history)
      (hstop : d'.stopRequested = d.stopRequested)
  | stops (hmove : move = .requestStop) (htasks : d'.tasks = d.tasks)
      (hhistory : d'.history = d.history) (hstop : d'.stopRequested = true)
  | rests (hmove : move.turn? = none) (htasks : d'.tasks = d.tasks)
      (hhistory : d'.history = d.history) (hstop : d'.stopRequested = d.stopRequested)

/-! ## What the pieces of a step keep -/

/-- Two daemons with the same calls, phases, stop flag, open listeners and unlinked files. -/
structure Alike (d d' : Daemon) : Prop where
  tasks : d'.tasks = d.tasks
  history : d'.history = d.history
  stop : d'.stopRequested = d.stopRequested
  listening : d'.host.listening = d.host.listening
  unlinked : d'.unlinked = d.unlinked

theorem Alike.refl (d : Daemon) : d.Alike d :=
  ⟨rfl, rfl, rfl, rfl, rfl⟩

theorem alike_report (d : Daemon) (events : List Log.Event) : d.Alike (d.report events) :=
  ⟨rfl, rfl, rfl, rfl, rfl⟩

/-- A phase is published if the daemon has not come as far. -/
theorem history_announce (d : Daemon) (next : Phase) :
    (d.announce next).history =
      if d.phase.rank < next.rank then (next, d.published ++ [next]) else d.history := by
  unfold announce
  split <;> rfl

/-- Announcing changes nothing but the phases and the log. -/
theorem announceIf_keeps (d : Daemon) (phase : Option Phase) :
    (d.announceIf phase).tasks = d.tasks ∧ (d.announceIf phase).stopRequested = d.stopRequested ∧
      (d.announceIf phase).host = d.host ∧ (d.announceIf phase).unlinked = d.unlinked := by
  cases phase with
  | none => exact ⟨rfl, rfl, rfl, rfl⟩
  | some next =>
      change (d.announce next).tasks = _ ∧ (d.announce next).stopRequested = _ ∧
        (d.announce next).host = _ ∧ (d.announce next).unlinked = _
      unfold announce
      split <;> exact ⟨rfl, rfl, rfl, rfl⟩

theorem alike_serveWaiting (d : Daemon) (listener : Listener) :
    d.Alike (d.serveWaiting listener) := by
  have hfold : ∀ (waiting : List Octets) (d : Daemon),
      d.Alike (waiting.foldl (fun d octets => (d.serveOctets octets).2) d) := by
    intro waiting
    induction waiting with
    | nil => exact Alike.refl
    | cons octets waiting ih =>
        intro d
        obtain ⟨htasks, hhistory, hstop, hlistening, hunlinked⟩ := ih (d.serveOctets octets).2
        exact ⟨htasks, hhistory, hstop, hlistening, hunlinked⟩
  obtain ⟨htasks, hhistory, hstop, hlistening, hunlinked⟩ := hfold (d.host.waitingAt listener)
    { d with host := d.host.accept listener }
  exact ⟨htasks, hhistory, hstop, hlistening, hunlinked⟩

theorem alike_call (d : Daemon) (address : Address) (limit : Duration) (call : Client.Call) :
    d.Alike (d.call address limit call).2 := by
  unfold Daemon.call receive
  dsimp only
  split
  · unfold deliver
    split <;> exact ⟨rfl, rfl, rfl, rfl, rfl⟩
  · exact ⟨rfl, rfl, rfl, rfl, rfl⟩

/-- What closing changes but the calls and the listeners. -/
theorem closeTask_keeps (d : Daemon) (task : Task) :
    (d.closeTask task).history = d.history ∧
      (d.closeTask task).stopRequested = d.stopRequested ∧
      (d.closeTask task).unlinked = d.unlinked := by
  unfold closeTask
  split <;> exact ⟨rfl, rfl, rfl⟩

/-- Closing takes the listener of a call that owns one. -/
theorem listens_closeTask (d : Daemon) {task : Task} (hopen : task.stage.isOpen = true) :
    d.host.Listens (d.closeTask task).host task.listener? none := by
  unfold closeTask Task.listener?
  rw [if_pos hopen]
  cases task.endpoint with
  | none => exact .keeps rfl
  | some endpoint => exact .closes rfl

/-- The end of a guard unlinks the file of a call that owns one, and leaves the listeners. -/
theorem dropTask_keeps (d : Daemon) {task : Task} (howns : task.stage.ownsFile = true) :
    (d.dropTask task).history = d.history ∧
      (d.dropTask task).stopRequested = d.stopRequested ∧
      (d.dropTask task).host.listening = d.host.listening ∧
      (d.dropTask task).unlinked = d.unlinked ++ task.socketFile?.toList := by
  unfold dropTask Task.socketFile?
  rw [if_pos howns]
  cases task.endpoint with
  | none => exact ⟨rfl, rfl, rfl, (List.append_nil _).symm⟩
  | some endpoint =>
      refine ⟨?_, ?_, ?_, ?_⟩
      · cases endpoint <;> rfl
      · cases endpoint <;> rfl
      · cases endpoint <;> rfl
      · have hend := d.estate_afterEnd_dropFile d.host endpoint rfl rfl
        cases hfile : endpoint.socketFile? with
        | none =>
            rw [hfile] at hend
            change (d.afterEnd (endpoint.dropFile d.host)).estate.unlinked = _
            rw [hend]
            simp [hfile, estate]
        | some file =>
            rw [hfile] at hend
            change (d.afterEnd (endpoint.dropFile d.host)).estate.unlinked = _
            rw [hend]
            simp [hfile, estate, Estate.unlink]

end Daemon

/-! ## Binding -/

theorem listens_listenTcp {host after : Host} {port bound : Port}
    (h : host.listenTcp port = .ok (bound, after)) :
    host.Listens after none (some (.tcp bound)) := by
  have hopens : ∀ bound : Port, Listener.tcp bound ∉ host.listening →
      host.Listens (host.openListener (.tcp bound)) none (some (.tcp bound)) := by
    intro bound hfree
    exact .opens (fun _ _ => hfree) (by rintro socket ⟨⟩) rfl
  unfold Host.listenTcp at h
  split at h
  · dsimp only at h
    split at h
    · cases h
    next hfree =>
      cases h
      exact (hopens _ fun hmem => hfree (.inr hmem)).of_listening rfl
  · split at h
    · cases h
    next hfree =>
      cases h
      exact hopens _ hfree

/-- Binding opens the listener of the endpoint that comes of it, or none. -/
theorem listens_bindTransport (host : Host) (transport : Transport) :
    host.Listens (bindTransport host transport).host none
      ((bindTransport host transport).result.toOption.map Endpoint.listener) := by
  have htcp : ∀ port, host.Listens (bindTcp host port).host none
      ((bindTcp host port).result.toOption.map Endpoint.listener) := by
    intro port
    unfold bindTcp
    split
    · exact .keeps rfl
    next hlisten => exact listens_listenTcp hlisten
  cases transport with
  | tcp port => exact htcp port
  | defaultTcp => exact htcp defaultPort
  | unix path =>
      change host.Listens (bindUnix host path).host none
        ((bindUnix host path).result.toOption.map Endpoint.listener)
      unfold bindUnix
      split
      · exact .keeps rfl
      · dsimp only
        split
        · exact .keeps rfl
        · split
          · exact .keeps rfl
          · exact .opens (by rintro port ⟨⟩) (by rintro socket ⟨⟩; rfl) rfl

namespace Daemon

/-- Binding, as long as nothing is announced, changes the open listeners at most. -/
theorem bindUnannounced_keeps (d : Daemon) :
    d.bindUnannounced.2.history = d.history ∧
      d.bindUnannounced.2.stopRequested = d.stopRequested ∧
      d.bindUnannounced.2.unlinked = d.unlinked ∧
      d.host.Listens d.bindUnannounced.2.host none
        (d.bindUnannounced.1.toOption.map Endpoint.listener) := by
  have hlistens := listens_bindTransport d.host d.config.transport
  unfold bindUnannounced
  cases hresult : (bindTransport d.host d.config.transport).result with
  | error failure =>
      rw [hresult] at hlistens
      simp only [hresult]
      exact ⟨rfl, rfl, rfl, hlistens⟩
  | ok endpoint =>
      rw [hresult] at hlistens
      simp only [hresult]
      exact ⟨rfl, rfl, rfl, hlistens⟩

/-! ## One lemma for each kind of turn -/

variable {d : Daemon} {i : Nat} {task : Task} {phase : Option Phase}

theorem tasks_updateTask (h : d.tasks[i]? = some task) (change : Task → Task) :
    (d.updateTask i change).tasks = d.tasks.set i (change task) := by
  change d.tasks.modify i change = _
  rw [List.modify_eq_set_getElem?, h]
  rfl

/-- A call that is changed is what the change makes of it. -/
theorem eq_of_updateTask {change : Task → Task} {after : Task}
    (h : (d.updateTask i change).tasks[i]? = some after) :
    ∃ before, d.tasks[i]? = some before ∧ after = change before := by
  change (d.tasks.modify i change)[i]? = some after at h
  rw [List.getElem?_modify_eq] at h
  obtain ⟨before, hbefore, hchange⟩ := Option.map_eq_some_iff.mp h
  exact ⟨before, hbefore, hchange.symm⟩

/-- A turn that changes a call, and nothing that is owned. -/
theorem Takes.of_update {d₁ : Daemon} (change : Task → Task) (h : d.tasks[i]? = some task)
    (hturn : task.Turn d phase (change task)) (halike : (d.announceIf phase).Alike d₁)
    (hendpoint : (change task).endpoint = task.endpoint)
    (hopen : (change task).stage.isOpen = task.stage.isOpen)
    (howns : (change task).stage.ownsFile = task.stage.ownsFile) :
    d.Takes i task phase (change task) (d₁.updateTask i change) := by
  obtain ⟨htasks, hstop, hhost, hunlinked⟩ := d.announceIf_keeps phase
  have hlistener : (change task).listener? = task.listener? := by
    rw [Task.listener?, Task.listener?, hendpoint, hopen]
  have hsame : d₁.tasks = d.tasks := halike.tasks.trans htasks
  refine ⟨h, hturn, ?_, halike.history, halike.stop.trans hstop, ?_, ?_⟩
  · rw [tasks_updateTask (hsame ▸ h), hsame]
  · rw [hlistener]
    exact .keeps (halike.listening.trans (by rw [hhost]))
  · have hnone : (if (change task).stage.ownsFile then [] else task.socketFile?.toList) = [] := by
      rw [howns, Task.socketFile?]
      split <;> rfl
    rw [hnone, List.append_nil]
    exact halike.unlinked.trans hunlinked

theorem Takes.of_alike {task' : Task} {d₁ d' : Daemon} (h : d.Takes i task phase task' d₁)
    (halike : d₁.Alike d') : d.Takes i task phase task' d' :=
  ⟨h.found, h.turn, halike.tasks.trans h.tasks, halike.history.trans h.history,
    halike.stop.trans h.stop, h.listens.of_listening halike.listening,
    halike.unlinked.trans h.unlinked⟩

/-- A call enters its accept loop, and those who wait are served. -/
theorem takes_openTask (h : d.tasks[i]? = some task) (hstage : task.stage = .opening) :
    d.Takes i task none { task with stage := .accepting, watcher := .waiting }
      (d.openTask i task) := by
  have hopened : d.Takes i task none { task with stage := .accepting, watcher := .waiting }
      (d.updateTask i fun task => { task with stage := .accepting, watcher := .waiting }) :=
    .of_update (fun task => { task with stage := .accepting, watcher := .waiting }) h
      (.opens hstage) (.refl _) rfl (by rw [hstage]; rfl) (by rw [hstage]; rfl)
  unfold openTask
  split
  · exact hopened.of_alike (alike_serveWaiting _ _)
  · exact hopened

/-- A call that came without an endpoint binds one, or fails to. -/
theorem takes_bindTask (h : d.tasks[i]? = some task) (hstage : task.stage = .binding) :
    ∃ task', d.Takes i task none task' (d.bindTask i) := by
  obtain ⟨-, -, htasks⟩ := d.bind_keeps
  obtain ⟨hhistory, hstop, hunlinked, hlistens⟩ := d.bindUnannounced_keeps
  have hnone : task.listener? = none := by
    rw [Task.listener?, hstage]
    rfl
  have hfile : task.socketFile? = none := by
    rw [Task.socketFile?, hstage]
    rfl
  unfold bindTask
  cases hbind : d.bindUnannounced with
  | mk result after =>
      rw [hbind] at htasks hhistory hstop hunlinked hlistens
      dsimp only at htasks hhistory hstop hunlinked hlistens
      have hfound : after.tasks[i]? = some task := htasks ▸ h
      cases result with
      | ok endpoint =>
          refine ⟨{ task with endpoint := some endpoint, stage := .entering }, h, .binds hstage,
            ?_, hhistory, hstop, ?_, ?_⟩
          · exact (tasks_updateTask hfound _).trans (by rw [htasks])
          · rw [hnone]
            exact hlistens
          · exact hunlinked.trans (List.append_nil _).symm
      | error failure =>
          refine ⟨{ task with stage := .returned (.error (.bind failure)) }, h,
            .refused hstage (by rintro fault ⟨⟩), ?_, hhistory, hstop, ?_, ?_⟩
          · exact (tasks_updateTask hfound _).trans (by rw [htasks])
          · rw [hnone]
            exact hlistens
          · rw [hfile]
            exact hunlinked.trans (List.append_nil _).symm

/-- A call closes its listener at the end of its accept loop, whatever ends that. -/
theorem takes_closeTask (h : d.tasks[i]? = some task) (hstage : task.stage = .accepting)
    (change : Task → Task) (hturn : task.Turn d none (change task))
    (hclosed : (change task).stage = .closed) :
    d.Takes i task none (change task) ((d.closeTask task).updateTask i change) := by
  obtain ⟨hhistory, hstop, hunlinked⟩ := d.closeTask_keeps task
  have htasks := d.tasks_closeTask task
  have hnone : (change task).listener? = none := by
    rw [Task.listener?, hclosed]
    rfl
  refine ⟨h, hturn, ?_, hhistory, hstop, ?_, ?_⟩
  · rw [tasks_updateTask (htasks ▸ h), htasks]
  · rw [hnone]
    exact d.listens_closeTask (by rw [hstage]; rfl)
  · rw [hclosed]
    exact hunlinked.trans (List.append_nil _).symm

/-- A call that still owns its file has it unlinked. -/
theorem Takes.of_drop {d₁ : Daemon} {stage : Stage} (h : d.tasks[i]? = some task)
    (hturn : task.Turn d none { task with stage := stage }) (howns : task.stage.ownsFile = true)
    (hlost : stage.ownsFile = false) (htasks : d₁.tasks = d.tasks)
    (hhistory : d₁.history = d.history) (hstop : d₁.stopRequested = d.stopRequested)
    (hunlinked : d₁.unlinked = d.unlinked) (hlistens : d.host.Listens d₁.host task.listener? none) :
    d.Takes i task none { task with stage := stage } ((d₁.dropTask task).setStage i stage) := by
  obtain ⟨hhistory', hstop', hlistening, hunlinked'⟩ := d₁.dropTask_keeps howns
  have htasks' := Custody.tasks_dropTask d₁ task
  have hnone : Task.listener? { task with stage := stage } = none := by
    refine if_neg fun hopen => ?_
    cases stage <;> cases hopen <;> cases hlost
  refine ⟨h, hturn, ?_, hhistory'.trans hhistory, hstop'.trans hstop, ?_, ?_⟩
  · rw [setStage, tasks_updateTask (htasks'.trans htasks ▸ h), htasks', htasks]
  · rw [hnone]
    exact hlistens.of_listening hlistening
  · change (d₁.dropTask task).unlinked = _
    rw [hunlinked', hunlinked]
    simp only [hlost, Bool.false_eq_true, if_false]

/-! ## All moves -/

/-- The step of a call is a turn of it. -/
theorem takes_of_advance {d' : Daemon} (h : d.tasks[i]? = some task)
    (hstep : d.advanceTask i task = some d') :
    ∃ phase task', d.Takes i task phase task' d' := by
  have hproceeds : ∀ (phase : Option Phase) {stage : Stage} {d₁ : Daemon},
      task.stage.next? = some (phase, stage) → stage.isOpen = task.stage.isOpen →
      stage.ownsFile = task.stage.ownsFile → (d.announceIf phase).Alike d₁ →
      ∃ phase task', d.Takes i task phase task' (d₁.setStage i stage) := by
    intro phase stage d₁ hnext hopen howns halike
    exact ⟨phase, _, .of_update (fun task => { task with stage := stage }) h (.proceeds hnext)
      halike rfl hopen howns⟩
  unfold advanceTask at hstep
  cases hstage : task.stage with
  | binding =>
      rw [hstage] at hstep
      cases hstep
      exact ⟨none, takes_bindTask h hstage⟩
  | entering =>
      rw [hstage] at hstep
      cases hstep
      exact hproceeds (some .bound) (by rw [hstage]; rfl) (by rw [hstage]; rfl)
        (by rw [hstage]; rfl) (.refl _)
  | announced =>
      rw [hstage] at hstep
      cases hstep
      exact hproceeds (some .serving) (by rw [hstage]; rfl) (by rw [hstage]; rfl)
        (by rw [hstage]; rfl) (.refl _)
  | opening =>
      rw [hstage] at hstep
      cases hstep
      exact ⟨none, _, takes_openTask h hstage⟩
  | accepting =>
      rw [hstage] at hstep
      dsimp only at hstep
      split at hstep
      next hsome =>
        obtain ⟨trigger, hwatcher⟩ := Option.isSome_iff_exists.mp hsome
        cases hstep
        exact ⟨none, _, takes_closeTask h hstage (fun task => { task with stage := .closed })
          (.closes hstage hwatcher) rfl⟩
      · cases hstep
  | closed =>
      rw [hstage] at hstep
      cases hstep
      rw [Custody.releaseTask_eq_dropTask]
      have hnone : task.listener? = none := by
        rw [Task.listener?, hstage]
        rfl
      exact ⟨none, _, .of_drop h (.releases hstage) (by rw [hstage]; rfl) rfl rfl rfl rfl rfl
        (hnone ▸ .keeps rfl)⟩
  | released =>
      rw [hstage] at hstep
      cases hstep
      exact hproceeds (some .shuttingDown) (by rw [hstage]; rfl) (by rw [hstage]; rfl)
        (by rw [hstage]; rfl) (.refl _)
  | leaving =>
      rw [hstage] at hstep
      cases hstep
      exact hproceeds (some .stopped) (by rw [hstage]; rfl) (by rw [hstage]; rfl)
        (by rw [hstage]; rfl) (.refl _)
  | left =>
      rw [hstage] at hstep
      cases hstep
      exact hproceeds none (by rw [hstage]; rfl) (by rw [hstage]; rfl)
        (by rw [hstage]; rfl) (d.alike_report _)
  | reported =>
      rw [hstage] at hstep
      obtain ⟨result, hverdict, rfl⟩ := Option.map_eq_some_iff.mp hstep
      exact ⟨none, _, .of_update (fun task => { task with stage := .returned result }) h
        (.returns hstage hverdict) (.refl _) rfl (by rw [hstage]; rfl) (by rw [hstage]; rfl)⟩
  | returned result =>
      rw [hstage] at hstep
      cases hstep
  | cancelled =>
      rw [hstage] at hstep
      cases hstep

/-- The step of a watcher is a turn of its call. -/
theorem takes_of_watch {trigger : Trigger} {d' : Daemon} (h : d.tasks[i]? = some task)
    (hstep : d.advanceWatcher i task trigger = some d') :
    ∃ phase task', d.Takes i task phase task' d' := by
  unfold advanceWatcher at hstep
  cases hwatcher : task.watcher with
  | absent =>
      rw [hwatcher] at hstep
      cases hstep
  | waiting =>
      rw [hwatcher] at hstep
      dsimp only at hstep
      split at hstep
      next htrigger =>
        cases hstep
        exact ⟨none, _, .of_update (fun task => { task with watcher := .reported trigger }) h
          (.wakes hwatcher htrigger) (d.alike_report _) rfl rfl rfl⟩
      · cases hstep
  | reported taken =>
      rw [hwatcher] at hstep
      cases hstep
      exact ⟨some .shuttingDown, _,
        .of_update (fun task => { task with watcher := .announced taken }) h (.warns hwatcher)
          (.refl _) rfl rfl rfl⟩
  | announced taken =>
      rw [hwatcher] at hstep
      cases hstep
      exact ⟨none, _, .of_update (fun task => { task with watcher := .handed taken }) h
        (.hands hwatcher) (.refl _) rfl rfl rfl⟩
  | handed taken =>
      rw [hwatcher] at hstep
      cases hstep
  | lost =>
      rw [hwatcher] at hstep
      cases hstep

/-- A failure of the system is a turn of the call that it strikes. -/
theorem takes_of_fail {fault : SystemError} {d' : Daemon} (h : d.tasks[i]? = some task)
    (hstep : d.failTask i task fault = some d') :
    ∃ phase task', d.Takes i task phase task' d' := by
  unfold failTask at hstep
  cases hstage : task.stage with
  | binding =>
      rw [hstage] at hstep
      cases hstep
      exact ⟨none, _,
        .of_update (fun task => { task with stage := .returned (.error (.signal fault)) }) h
          (.refused hstage (by rintro fault ⟨⟩)) (.refl _) rfl (by rw [hstage]; rfl)
          (by rw [hstage]; rfl)⟩
  | accepting =>
      rw [hstage] at hstep
      cases hstep
      exact ⟨none, _, takes_closeTask h hstage
        (fun task => { task with stage := .closed, failure := some fault }) (.breaks hstage) rfl⟩
  | _ =>
      rw [hstage] at hstep
      cases hstep

/-- A panic is a turn of the call whose interrupt it strikes. -/
theorem takes_of_panic {d' : Daemon} (h : d.tasks[i]? = some task)
    (hstep : d.panicTask i task = some d') :
    d.Takes i task none { task with watcher := .lost } d' := by
  unfold panicTask at hstep
  split at hstep
  next hwaits =>
    cases hstep
    exact .of_update (fun task => { task with watcher := .lost }) h (.loses hwaits.1 hwaits.2)
      (.refl _) rfl rfl rfl
  · cases hstep

/-- A cancellation is a turn of the call that it strikes. -/
theorem takes_of_cancel {d' : Daemon} (h : d.tasks[i]? = some task)
    (hstep : d.cancelTask i task = some d') :
    d.Takes i task none { task with stage := .cancelled } d' := by
  unfold cancelTask at hstep
  split at hstep
  · cases hstep
  next hover =>
    have hturn : task.Turn d none { task with stage := .cancelled } :=
      .cancels (Bool.eq_false_iff.mpr hover)
    cases hstep
    by_cases hopen : task.stage.isOpen = true
    · have howns := Stage.ownsFile_of_isOpen hopen
      obtain ⟨hhistory, hstop, hunlinked⟩ := d.closeTask_keeps task
      rw [if_pos hopen, if_pos howns]
      exact .of_drop h hturn howns rfl (d.tasks_closeTask task) hhistory hstop hunlinked
        (d.listens_closeTask hopen)
    · have hnone : task.listener? = none := if_neg hopen
      rw [if_neg hopen]
      by_cases howns : task.stage.ownsFile = true
      · rw [if_pos howns]
        exact .of_drop h hturn howns rfl rfl rfl rfl rfl (hnone ▸ .keeps rfl)
      · rw [if_neg howns]
        exact .of_update (fun task => { task with stage := .cancelled }) h hturn
          (.refl _) rfl (Bool.eq_false_iff.mpr hopen).symm (Bool.eq_false_iff.mpr howns).symm

/-- A move of a call is a turn of it. -/
theorem takes_of_step {move : Move} {d' : Daemon} (hmove : move.turn? = some i)
    (h : d.step move = some d') : ∃ task phase task', d.Takes i task phase task' d' := by
  cases move with
  | advance j =>
      cases hmove
      obtain ⟨task, htask, hstep⟩ := Option.bind_eq_some_iff.mp h
      exact ⟨task, takes_of_advance htask hstep⟩
  | watch j trigger =>
      cases hmove
      obtain ⟨task, htask, hstep⟩ := Option.bind_eq_some_iff.mp h
      exact ⟨task, takes_of_watch htask hstep⟩
  | fail j fault =>
      cases hmove
      obtain ⟨task, htask, hstep⟩ := Option.bind_eq_some_iff.mp h
      exact ⟨task, takes_of_fail htask hstep⟩
  | panic j =>
      cases hmove
      obtain ⟨task, htask, hstep⟩ := Option.bind_eq_some_iff.mp h
      exact ⟨task, none, _, takes_of_panic htask hstep⟩
  | cancel j =>
      cases hmove
      obtain ⟨task, htask, hstep⟩ := Option.bind_eq_some_iff.mp h
      exact ⟨task, none, _, takes_of_cancel htask hstep⟩
  | _ => cases hmove

/-- Every move is the turn of a call, or the beginning of one, or leaves the calls as they are. -/
theorem progress_of_step {move : Move} {d' : Daemon} (h : d.step move = some d') :
    d.Progress move d' := by
  cases move with
  | advance j =>
      obtain ⟨task, phase, task', htakes⟩ := takes_of_step rfl h
      exact .turn rfl htakes
  | watch j trigger =>
      obtain ⟨task, phase, task', htakes⟩ := takes_of_step rfl h
      exact .turn rfl htakes
  | fail j fault =>
      obtain ⟨task, phase, task', htakes⟩ := takes_of_step rfl h
      exact .turn rfl htakes
  | panic j =>
      obtain ⟨task, phase, task', htakes⟩ := takes_of_step rfl h
      exact .turn rfl htakes
  | cancel j =>
      obtain ⟨task, phase, task', htakes⟩ := takes_of_step rfl h
      exact .turn rfl htakes
  | bind =>
      cases h
      obtain ⟨count, hbegin⟩ := d.beginBind_eq
      obtain ⟨hhistory, hstop, -, -⟩ := d.bindUnannounced_keeps
      rw [hbegin]
      exact .rests rfl d.bind_keeps.2.2 hhistory hstop
  | announce =>
      obtain ⟨count, rfl⟩ := endBind_eq h
      refine .announces rfl (tasks_announce _ _) ?_ (announceIf_keeps _ (some .bound)).2.1
      rw [history_announce, history_announce]
      rfl
  | bindAt transport =>
      cases h
      exact .rests rfl rfl rfl rfl
  | serve endpoint =>
      cases h
      exact .begins (some endpoint) rfl rfl rfl rfl
  | run =>
      cases h
      exact .begins none rfl rfl rfl rfl
  | requestStop =>
      cases h
      exact .stops rfl rfl rfl rfl
  | interrupt j trigger =>
      cases h
      exact .interrupts rfl rfl rfl rfl
  | call address limit call =>
      cases h
      have halike := d.alike_call address limit call
      exact .rests rfl halike.tasks halike.history halike.stop
  | drop endpoint =>
      cases h
      exact .rests rfl rfl rfl rfl
  | release endpoint =>
      cases h
      exact .rests rfl rfl rfl rfl
  | meddle files =>
      cases h
      exact .rests rfl rfl rfl rfl

end Daemon

end Beacon
