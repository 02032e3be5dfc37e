import Beacon.Proofs.Daemon.Custody

/-!
# What a daemon keeps for life

A daemon has the configuration and the identity that it was created with, on a host whose loopback
addresses are within reach or not. Nothing that happens to a daemon changes this.
-/

namespace Beacon

theorem loopback_bindTransport (host : Host) (transport : Transport) :
    (bindTransport host transport).host.loopback = host.loopback := by
  have htcp : ∀ port, (bindTcp host port).host.loopback = host.loopback := by
    intro port
    unfold bindTcp Host.listenTcp
    dsimp only
    split
    · rfl
    next hlisten =>
      split at hlisten
      · split at hlisten <;> cases hlisten
        rfl
      · split at hlisten <;> cases hlisten
        rfl
  cases transport with
  | tcp port => exact htcp port
  | defaultTcp => exact htcp defaultPort
  | unix path =>
      change (bindUnix host path).host.loopback = host.loopback
      unfold bindUnix
      split
      · rfl
      · dsimp only
        split
        · rfl
        · split <;> rfl

namespace Daemon

/-- What a daemon was created with, and whether it can be reached over loopback addresses. -/
def footing (d : Daemon) : Config × Identity × Bool :=
  (d.config, d.identity, d.host.loopback)

variable {d d' : Daemon} {i : Nat} {task : Task} {move : Move}

/-! ## The pieces of a step -/

@[simp] theorem footing_report (d : Daemon) (events : List Log.Event) :
    (d.report events).footing = d.footing := rfl

@[simp] theorem footing_announce (d : Daemon) (next : Phase) :
    (d.announce next).footing = d.footing := by
  unfold announce
  split <;> rfl

@[simp] theorem footing_updateTask (d : Daemon) (i : Nat) (change : Task → Task) :
    (d.updateTask i change).footing = d.footing := rfl

@[simp] theorem footing_setStage (d : Daemon) (i : Nat) (stage : Stage) :
    (d.setStage i stage).footing = d.footing := rfl

@[simp] theorem footing_setWatcher (d : Daemon) (i : Nat) (watcher : Watcher) :
    (d.setWatcher i watcher).footing = d.footing := rfl

@[simp] theorem footing_bindUnannounced (d : Daemon) :
    d.bindUnannounced.2.footing = d.footing := by
  have hloopback := loopback_bindTransport d.host d.config.transport
  unfold bindUnannounced
  dsimp only
  split <;> simp [footing, report, hloopback]

@[simp] theorem footing_bindTask (d : Daemon) (i : Nat) : (d.bindTask i).footing = d.footing := by
  have hbind := d.footing_bindUnannounced
  unfold bindTask
  split
  next hresult =>
    rw [hresult] at hbind
    exact hbind
  next hresult =>
    rw [hresult] at hbind
    exact hbind

@[simp] theorem footing_closeTask (d : Daemon) (task : Task) :
    (d.closeTask task).footing = d.footing := by
  unfold closeTask
  split <;> rfl

@[simp] theorem footing_dropTask (d : Daemon) (task : Task) :
    (d.dropTask task).footing = d.footing := by
  unfold dropTask
  split
  next endpoint _ => cases endpoint <;> rfl
  · rfl

@[simp] theorem footing_serveWaiting (d : Daemon) (listener : Listener) :
    (d.serveWaiting listener).footing = d.footing := by
  have hfold : ∀ (waiting : List Octets) (d : Daemon),
      (waiting.foldl (fun d octets => (d.serveOctets octets).2) d).footing = d.footing := by
    intro waiting
    induction waiting with
    | nil => exact fun _ => rfl
    | cons octets waiting ih => exact fun d => ih (d.serveOctets octets).2
  exact hfold _ _

@[simp] theorem footing_openTask (d : Daemon) (i : Nat) (task : Task) :
    (d.openTask i task).footing = d.footing := by
  unfold openTask
  dsimp only
  split
  · simp
  · rfl

theorem footing_receive {α : Type} (d : Daemon)
    (found : Except SystemError (Listener × Client.Peer)) (exchange : Client.Exchange α) :
    (d.receive found exchange).footing = d.footing := by
  unfold receive
  split
  · unfold deliver
    split <;> rfl
  · rfl

/-! ## All moves -/

theorem footing_of_advance (hstep : d.advanceTask i task = some d') : d'.footing = d.footing := by
  unfold advanceTask at hstep
  cases hstage : task.stage with
  | accepting =>
      rw [hstage] at hstep
      dsimp only at hstep
      split at hstep
      · cases hstep
        simp
      · cases hstep
  | closed =>
      rw [hstage] at hstep
      cases hstep
      rw [Custody.releaseTask_eq_dropTask]
      simp
  | reported =>
      rw [hstage] at hstep
      obtain ⟨result, -, rfl⟩ := Option.map_eq_some_iff.mp hstep
      simp
  | returned result =>
      rw [hstage] at hstep
      cases hstep
  | cancelled =>
      rw [hstage] at hstep
      cases hstep
  | _ =>
      rw [hstage] at hstep
      cases hstep
      simp

theorem footing_of_watch {trigger : Trigger} (hstep : d.advanceWatcher i task trigger = some d') :
    d'.footing = d.footing := by
  unfold advanceWatcher at hstep
  cases hwatcher : task.watcher with
  | waiting =>
      rw [hwatcher] at hstep
      dsimp only at hstep
      split at hstep
      · cases hstep
        simp
      · cases hstep
  | reported taken =>
      rw [hwatcher] at hstep
      cases hstep
      simp
  | announced taken =>
      rw [hwatcher] at hstep
      cases hstep
      simp
  | _ =>
      rw [hwatcher] at hstep
      cases hstep

theorem footing_of_fail {fault : SystemError} (hstep : d.failTask i task fault = some d') :
    d'.footing = d.footing := by
  unfold failTask at hstep
  split at hstep
  · cases hstep
    simp
  · cases hstep
    simp
  · cases hstep

theorem footing_of_cancel (hstep : d.cancelTask i task = some d') : d'.footing = d.footing := by
  have hclosed : (if task.stage.isOpen then d.closeTask task else d).footing = d.footing := by
    split
    · simp
    · rfl
  unfold cancelTask at hstep
  split at hstep
  · cases hstep
  · cases hstep
    rw [footing_setStage]
    split
    · rw [footing_dropTask, hclosed]
    · exact hclosed

theorem footing_of_step (h : d.step move = some d') : d'.footing = d.footing := by
  cases move with
  | bind =>
      cases h
      obtain ⟨count, hbegin⟩ := d.beginBind_eq
      rw [hbegin]
      exact d.footing_bindUnannounced
  | announce =>
      obtain ⟨count, rfl⟩ := endBind_eq h
      exact footing_announce _ _
  | bindAt transport =>
      cases h
      simp [footing, bindAt, report, loopback_bindTransport]
  | advance j =>
      obtain ⟨found, -, hstep⟩ := Option.bind_eq_some_iff.mp h
      exact footing_of_advance hstep
  | watch j trigger =>
      obtain ⟨found, -, hstep⟩ := Option.bind_eq_some_iff.mp h
      exact footing_of_watch hstep
  | fail j fault =>
      obtain ⟨found, -, hstep⟩ := Option.bind_eq_some_iff.mp h
      exact footing_of_fail hstep
  | panic j =>
      obtain ⟨found, -, hstep⟩ := Option.bind_eq_some_iff.mp h
      unfold panicTask at hstep
      split at hstep
      · cases hstep
        simp
      · cases hstep
  | cancel j =>
      obtain ⟨found, -, hstep⟩ := Option.bind_eq_some_iff.mp h
      exact footing_of_cancel hstep
  | call address limit call =>
      cases h
      exact footing_receive (d.report _) _ _
  | drop endpoint =>
      cases h
      cases endpoint <;> rfl
  | release endpoint =>
      cases h
      cases endpoint <;> rfl
  | _ =>
      cases h
      rfl

/-- Whatever has happened to a daemon, it is the same one on the same host. -/
theorem footing_of_reaches (h : d.Reaches d') : d'.footing = d.footing := by
  induction h with
  | refl => rfl
  | step _ hsteps ih =>
      obtain ⟨move, hstep⟩ := hsteps
      exact (footing_of_step hstep).trans ih

end Daemon

end Beacon
