import Beacon.Daemon.Custody
import Beacon.Proofs.Endpoint
import Mathlib.Data.List.Perm.Basic

/-!
# What a move does to socket files

Every move either leaves the socket files alone, or binds one, or fails to, or ends one, or is made
by somebody else. Whatever holds of all these cases holds after every move, in whatever order the
moves are made.
-/

namespace Beacon

/-! ## Estates -/

/-- What binding and ending act on: the files, the identity of the next socket, and the unlinked
socket files. -/
structure Estate where
  files : FileSystem
  nextSocket : Nat
  unlinked : List SocketFile

/-- The estate after the end of a socket file's endpoint. -/
def Estate.unlink (estate : Estate) (file : SocketFile) : Estate :=
  { estate with
    files := (guardUnlink estate.files file.path).files
    unlinked := estate.unlinked ++ [file] }

def Estate.bind (estate : Estate) (attempt : BindAttempt) : Estate :=
  { estate with files := attempt.host.files, nextSocket := attempt.host.nextSocket }

namespace Daemon

def estate (d : Daemon) : Estate :=
  ⟨d.host.files, d.host.nextSocket, d.unlinked⟩

@[simp] theorem estate_report (d : Daemon) (events : List Log.Event) :
    (d.report events).estate = d.estate := rfl

@[simp] theorem estate_announce (d : Daemon) (next : Phase) :
    (d.announce next).estate = d.estate := by
  unfold announce
  split <;> rfl

@[simp] theorem tasks_announce (d : Daemon) (next : Phase) :
    (d.announce next).tasks = d.tasks := by
  unfold announce
  split <;> rfl

@[simp] theorem tasks_report (d : Daemon) (events : List Log.Event) :
    (d.report events).tasks = d.tasks := rfl

/-! ## Serving -/

theorem serveWaiting_keeps (d : Daemon) (listener : Listener) :
    (d.serveWaiting listener).estate = d.estate ∧ (d.serveWaiting listener).tasks = d.tasks := by
  have hfold : ∀ (waiting : List Octets) (d : Daemon),
      (waiting.foldl (fun d octets => (d.serveOctets octets).2) d).estate = d.estate ∧
        (waiting.foldl (fun d octets => (d.serveOctets octets).2) d).tasks = d.tasks := by
    intro waiting
    induction waiting with
    | nil => exact fun d => ⟨rfl, rfl⟩
    | cons octets waiting ih => exact fun d => ih (d.serveOctets octets).2
  exact hfold _ _

theorem receive_keeps {α : Type} (d : Daemon)
    (found : Except SystemError (Listener × Client.Peer)) (exchange : Client.Exchange α) :
    (d.receive found exchange).estate = d.estate ∧ (d.receive found exchange).tasks = d.tasks := by
  unfold receive
  split
  · unfold deliver
    split <;> exact ⟨rfl, rfl⟩
  · exact ⟨rfl, rfl⟩

theorem call_keeps (d : Daemon) (address : Address) (limit : Duration) (call : Client.Call) :
    (d.call address limit call).2.estate = d.estate ∧
      (d.call address limit call).2.tasks = d.tasks :=
  receive_keeps (d.report _) _ _

/-! ## Ending -/

theorem estate_closeTask (d : Daemon) (task : Task) : (d.closeTask task).estate = d.estate := by
  unfold closeTask
  split <;> rfl

theorem tasks_closeTask (d : Daemon) (task : Task) : (d.closeTask task).tasks = d.tasks := by
  unfold closeTask
  split <;> rfl

/-- The estate of a daemon once an endpoint's guard has done its work. -/
theorem estate_afterEnd_dropFile (d : Daemon) (host : Host) (endpoint : Endpoint)
    (hfiles : host.files = d.host.files) (hsocket : host.nextSocket = d.host.nextSocket) :
    (d.afterEnd (endpoint.dropFile host)).estate =
      match endpoint.socketFile? with
      | some file => d.estate.unlink file
      | none => d.estate := by
  cases endpoint with
  | tcp port =>
      simp only [afterEnd, Endpoint.dropFile, Endpoint.socketFile?, estate, hfiles, hsocket,
        List.append_nil]
  | unix socket path =>
      simp only [afterEnd, Endpoint.dropFile, Endpoint.socketFile?, estate, Estate.unlink,
        Ended.ofUnlinked, Guard.drop_new, attempts_guardUnlink, hfiles, hsocket, List.map_cons,
        List.map_nil]

/-! ## Binding -/

theorem bind_keeps (d : Daemon) :
    d.bindUnannounced.1 = (bindTransport d.host d.config.transport).result ∧
      d.bindUnannounced.2.estate = d.estate.bind (bindTransport d.host d.config.transport) ∧
      d.bindUnannounced.2.tasks = d.tasks := by
  unfold bindUnannounced
  cases hresult : (bindTransport d.host d.config.transport).result with
  | error failure =>
      simp only [hresult]
      exact ⟨trivial, rfl, rfl⟩
  | ok endpoint =>
      simp only [hresult]
      exact ⟨trivial, rfl, rfl⟩

/-- The first step of a bind call binds, and counts what is still to be announced. -/
theorem beginBind_eq (d : Daemon) :
    ∃ count, d.beginBind = { d.bindUnannounced.2 with unannounced := count } := by
  unfold beginBind
  split
  next hbind => exact ⟨_, by rw [hbind]⟩
  next hbind => exact ⟨_, by rw [hbind]⟩

/-- The last step of a bind call announces, and counts what is still to be announced. -/
theorem endBind_eq {d d' : Daemon} (h : d.endBind = some d') :
    ∃ count, d' = Daemon.announce { d with unannounced := count } .bound := by
  unfold endBind at h
  split at h
  · cases h
  · cases h
    exact ⟨_, rfl⟩

end Daemon

/-! ## Custody of files -/

/-- The socket file that a result of binding has made. -/
def fileOf? : Except BindError Endpoint → Option SocketFile
  | .ok endpoint => endpoint.socketFile?
  | .error _ => none

namespace Custody

/-- What a move comes to for the socket files. -/
inductive Effect (c : Custody) (move : Daemon.Move) (c' : Custody) : Prop where
  | quiet (hdeed : c.daemon.deed? move = none) (hestate : c'.daemon.estate = c.daemon.estate)
      (hlive : c'.live.Perm c.live)
  | bound {path : Path} (hdeed : c.daemon.deed? move = some (.bind path))
      (hresult : (bindUnix c.host path).result = .ok (.unix c.host.nextSocket path))
      (hestate : c'.daemon.estate = c.daemon.estate.bind (bindUnix c.host path))
      (hlive : c'.live.Perm (⟨c.host.nextSocket, path⟩ :: c.live))
  | refused {path : Path} {failure : BindError} (hdeed : c.daemon.deed? move = some (.bind path))
      (hresult : (bindUnix c.host path).result = .error failure)
      (hestate : c'.daemon.estate = c.daemon.estate.bind (bindUnix c.host path))
      (hlive : c'.live.Perm c.live)
  | ended {file : SocketFile} (hdeed : c.daemon.deed? move = some (.unlink file))
      (hestate : c'.daemon.estate = c.daemon.estate.unlink file)
      (hlive : c.live.Perm (file :: c'.live))
  | meddled {files : FileSystem} (hmove : move = .meddle files)
      (hestate : c'.daemon.estate = { c.daemon.estate with files := files })
      (hlive : c'.live.Perm c.live)

/-! ## Changes of serving calls -/

theorem filterMap_cons_eq {α β : Type} (value? : α → Option β) (first : α) (rest : List α) :
    (first :: rest).filterMap value? = (value? first).toList ++ rest.filterMap value? := by
  rw [List.filterMap_eq_flatMap_toList, List.flatMap_cons, List.filterMap_eq_flatMap_toList]

theorem filterMap_modify {α β : Type} (value? : α → Option β) (items : List α) (i : Nat)
    {change : α → α} (h : ∀ item, value? (change item) = value? item) :
    (items.modify i change).filterMap value? = items.filterMap value? := by
  induction items generalizing i with
  | nil => rw [List.modify_nil]
  | cons item items ih =>
      cases i with
      | zero => rw [List.modify_zero_cons, filterMap_cons_eq, filterMap_cons_eq, h]
      | succ i => rw [List.modify_succ_cons, filterMap_cons_eq, filterMap_cons_eq, ih]

/-- What the values of items gain and lose when one of the items is set. -/
theorem filterMap_set_perm {α β : Type} (value? : α → Option β) {items : List α} {i : Nat}
    {old : α} (h : items[i]? = some old) (new : α) :
    ((value? new).toList ++ items.filterMap value?).Perm
      ((value? old).toList ++ (items.set i new).filterMap value?) := by
  induction items generalizing i with
  | nil => cases h
  | cons first items ih =>
      cases i with
      | zero =>
          cases h
          rw [List.set_cons_zero, filterMap_cons_eq, filterMap_cons_eq]
          exact List.perm_append_comm_assoc _ _ _
      | succ i =>
          rw [List.set_cons_succ, filterMap_cons_eq, filterMap_cons_eq]
          exact (List.perm_append_comm_assoc _ _ _).trans
            (((ih h).append_left _).trans (List.perm_append_comm_assoc _ _ _))

/-- The same beside other values. -/
theorem append_filterMap_set_perm {α β : Type} (value? : α → Option β) (others : List β)
    {items : List α} {i : Nat} {old : α} (h : items[i]? = some old) (new : α) :
    ((value? new).toList ++ (others ++ items.filterMap value?)).Perm
      ((value? old).toList ++ (others ++ (items.set i new).filterMap value?)) :=
  (List.perm_append_comm_assoc _ _ _).trans
    (((filterMap_set_perm value? h new).append_left others).trans
      (List.perm_append_comm_assoc _ _ _))

variable {c : Custody} {i : Nat} {task : Task}

/-- A call that is changed gives away what it owned, and has what it owns after the change. -/
theorem live_of_change {d : Daemon} (h : c.daemon.tasks[i]? = some task) {change : Task → Task}
    (htasks : d.tasks = c.daemon.tasks.modify i change) :
    ((change task).socketFile?.toList ++ c.live).Perm
      (task.socketFile?.toList ++ (Custody.mk d c.held).live) := by
  have hset : d.tasks = c.daemon.tasks.set i (change task) := by
    rw [htasks, List.modify_eq_set_getElem?, h]
    rfl
  rw [live, live, hset]
  exact append_filterMap_set_perm Task.socketFile? _ h (change task)

/-- A call that owns after a change what it owned before leaves the live files as they are. -/
theorem live_of_same {d : Daemon} (h : c.daemon.tasks[i]? = some task) {change : Task → Task}
    (htasks : d.tasks = c.daemon.tasks.modify i change)
    (hsame : (change task).socketFile? = task.socketFile?) :
    (Custody.mk d c.held).live.Perm c.live := by
  have hchange := live_of_change h htasks
  rw [hsame] at hchange
  exact ((List.perm_append_left_iff _).mp hchange).symm

/-- The file of a call that owns none after a change is live no more. -/
theorem live_of_lost {d : Daemon} (h : c.daemon.tasks[i]? = some task) {change : Task → Task}
    (htasks : d.tasks = c.daemon.tasks.modify i change)
    (hlost : (change task).socketFile? = none) :
    c.live.Perm (task.socketFile?.toList ++ (Custody.mk d c.held).live) := by
  have hchange := live_of_change h htasks
  rw [hlost] at hchange
  exact hchange

/-- The file that a call owns after a change, if it owned none before, is live. -/
theorem live_of_gained {d : Daemon} (h : c.daemon.tasks[i]? = some task) {change : Task → Task}
    (htasks : d.tasks = c.daemon.tasks.modify i change) (hnone : task.socketFile? = none) :
    (Custody.mk d c.held).live.Perm ((change task).socketFile?.toList ++ c.live) := by
  have hchange := live_of_change h htasks
  rw [hnone] at hchange
  exact hchange.symm

/-! ## One lemma for each kind of move -/

theorem listenTcp_keeps {host after : Host} {port bound : Port}
    (h : host.listenTcp port = .ok (bound, after)) :
    after.files = host.files ∧ after.nextSocket = host.nextSocket := by
  unfold Host.listenTcp at h
  split at h
  · dsimp only at h
    split at h
    · cases h
    · cases h
      exact ⟨rfl, rfl⟩
  · split at h
    · cases h
    · cases h
      exact ⟨rfl, rfl⟩

theorem bindTcp_keeps (host : Host) (port : Port) :
    (bindTcp host port).host.files = host.files ∧
      (bindTcp host port).host.nextSocket = host.nextSocket ∧
      fileOf? (bindTcp host port).result = none := by
  unfold bindTcp
  split
  · exact ⟨rfl, rfl, rfl⟩
  next bound after hlisten =>
    obtain ⟨hfiles, hsocket⟩ := listenTcp_keeps hlisten
    exact ⟨hfiles, hsocket, rfl⟩

/-- Binding an endpoint, wherever it goes. -/
theorem effect_of_bind {move : Daemon.Move} {c' : Custody} {transport : Transport}
    (hdeed : c.daemon.deed? move = transport.socketPath?.map .bind)
    (hestate : c'.daemon.estate = c.daemon.estate.bind (bindTransport c.host transport))
    (hlive : c'.live.Perm ((fileOf? (bindTransport c.host transport).result).toList ++ c.live)) :
    Effect c move c' := by
  have htcp : ∀ port, bindTransport c.host transport = bindTcp c.host port →
      transport.socketPath? = none → Effect c move c' := by
    intro port hbind hnone
    obtain ⟨hfiles, hsocket, hnoFile⟩ := bindTcp_keeps c.host port
    rw [hbind, hnoFile] at hlive
    rw [hnone] at hdeed
    refine .quiet hdeed ?_ hlive
    rw [hestate, hbind, Estate.bind, hfiles, hsocket]
    rfl
  cases transport with
  | tcp port => exact htcp port rfl rfl
  | defaultTcp => exact htcp defaultPort rfl rfl
  | unix path =>
      change c'.daemon.estate = c.daemon.estate.bind (bindUnix c.host path) at hestate
      change c'.live.Perm ((fileOf? (bindUnix c.host path).result).toList ++ c.live) at hlive
      cases hresult : (bindUnix c.host path).result with
      | error failure =>
          rw [hresult] at hlive
          exact .refused hdeed hresult hestate hlive
      | ok endpoint =>
          obtain ⟨rfl, -, -⟩ := holds_of_bindUnix hresult
          rw [hresult] at hlive
          exact .bound hdeed hresult hestate hlive

/-- Ending an endpoint that is held. -/
theorem effect_of_end {move : Daemon.Move} {endpoint : Endpoint} {d : Daemon}
    (hheld : endpoint ∈ c.held)
    (hdeed : c.daemon.deed? move = endpoint.socketFile?.map .unlink)
    (hestate : d.estate = match endpoint.socketFile? with
      | some file => c.daemon.estate.unlink file
      | none => c.daemon.estate)
    (htasks : d.tasks = c.daemon.tasks) : Effect c move ⟨d, c.held.erase endpoint⟩ := by
  have hlive : c.live.Perm
      (endpoint.socketFile?.toList ++ (Custody.mk d (c.held.erase endpoint)).live) := by
    rw [live, live, htasks, ← List.append_assoc, ← filterMap_cons_eq]
    exact ((List.perm_cons_erase hheld).filterMap _).append_right _
  cases hfile : endpoint.socketFile? with
  | none =>
      rw [hfile] at hdeed hestate hlive
      exact .quiet hdeed hestate hlive.symm
  | some file =>
      rw [hfile] at hdeed hestate hlive
      exact .ended hdeed hestate hlive

/-- Ending the endpoint of a call that owns its file no more after that. -/
theorem effect_of_lost {move : Daemon.Move} {d : Daemon} {change : Task → Task}
    (h : c.daemon.tasks[i]? = some task)
    (hdeed : c.daemon.deed? move = task.socketFile?.map .unlink)
    (hestate : d.estate = match task.socketFile? with
      | some file => c.daemon.estate.unlink file
      | none => c.daemon.estate)
    (htasks : d.tasks = c.daemon.tasks.modify i change)
    (hlost : (change task).socketFile? = none) : Effect c move ⟨d, c.held⟩ := by
  have hlive := live_of_lost h htasks hlost
  cases hfile : task.socketFile? with
  | none =>
      rw [hfile] at hdeed hestate hlive
      exact .quiet hdeed hestate hlive.symm
  | some file =>
      rw [hfile] at hdeed hestate hlive
      exact .ended hdeed hestate hlive

/-- A step of a call that ends nothing. -/
theorem effect_of_setStage {move : Daemon.Move} {d : Daemon} {stage : Stage}
    (h : c.daemon.tasks[i]? = some task) (hdeed : c.daemon.deed? move = none)
    (hestate : d.estate = c.daemon.estate) (htasks : d.tasks = c.daemon.tasks)
    (hsame : stage.ownsFile = task.stage.ownsFile) :
    Effect c move ⟨d.setStage i stage, c.held⟩ := by
  refine .quiet hdeed hestate (live_of_same h (congrArg (List.modify · i _) htasks) ?_)
  rw [Task.socketFile?, Task.socketFile?, hsame]

/-- The endpoint of a call that owns its file is unlinked by its guard. -/
theorem estate_endTask {d : Daemon} (hclosed : d.estate = c.daemon.estate)
    (howns : task.stage.ownsFile = true) :
    (d.dropTask task).estate =
      match task.socketFile? with
      | some file => c.daemon.estate.unlink file
      | none => c.daemon.estate := by
  rw [Task.socketFile?, if_pos howns, Daemon.dropTask]
  cases task.endpoint with
  | none => exact hclosed
  | some endpoint =>
      rw [← hclosed]
      exact d.estate_afterEnd_dropFile d.host endpoint rfl rfl

theorem tasks_dropTask (d : Daemon) (task : Task) : (d.dropTask task).tasks = d.tasks := by
  unfold Daemon.dropTask
  split <;> rfl

theorem releaseTask_eq_dropTask (d : Daemon) (task : Task) :
    d.releaseTask task = d.dropTask task := by
  unfold Daemon.releaseTask Daemon.dropTask
  split
  · rw [Endpoint.releaseFile_eq_dropFile]
  · rfl

theorem deed?_advance (h : c.daemon.tasks[i]? = some task) :
    c.daemon.deed? (.advance i) = c.daemon.taskDeed? task := by
  rw [Daemon.deed?, h, Option.bind_some]

/-- A call that came without an endpoint binds one. -/
theorem effect_of_bindTask (h : c.daemon.tasks[i]? = some task) (hstage : task.stage = .binding) :
    Effect c (.advance i) ⟨c.daemon.bindTask i, c.held⟩ := by
  obtain ⟨hresult, hestate, htasks⟩ := c.daemon.bind_keeps
  have hdeed := deed?_advance h
  rw [Daemon.taskDeed?, hstage] at hdeed
  have hnone : task.socketFile? = none := by
    rw [Task.socketFile?, hstage]
    rfl
  unfold Daemon.bindTask
  cases hbind : c.daemon.bindUnannounced with
  | mk result after =>
      rw [hbind] at hresult hestate htasks
      have hmodify : ∀ change : Task → Task,
          (after.updateTask i change).tasks = c.daemon.tasks.modify i change :=
        fun change => congrArg (List.modify · i change) htasks
      cases result with
      | error failure =>
          have hlive := live_of_same h
            (hmodify fun task => { task with stage := .returned (.error (.bind failure)) })
            hnone.symm
          refine effect_of_bind hdeed hestate ?_
          rw [host, ← hresult]
          exact hlive
      | ok endpoint =>
          have hlive := live_of_gained h
            (hmodify fun task => { task with endpoint := some endpoint, stage := .entering }) hnone
          refine effect_of_bind hdeed hestate ?_
          rw [host, ← hresult]
          exact hlive

/-- A call that enters its accept loop still owns its file. -/
theorem effect_of_openTask {move : Daemon.Move} (h : c.daemon.tasks[i]? = some task)
    (hdeed : c.daemon.deed? move = none) (hstage : task.stage = .opening) :
    Effect c move ⟨c.daemon.openTask i task, c.held⟩ := by
  let opened := c.daemon.updateTask i fun task =>
    { task with stage := .accepting, watcher := .waiting }
  have hkeeps : (c.daemon.openTask i task).estate = opened.estate ∧
      (c.daemon.openTask i task).tasks = opened.tasks := by
    unfold Daemon.openTask
    split
    · exact opened.serveWaiting_keeps _
    · exact ⟨rfl, rfl⟩
  refine .quiet hdeed hkeeps.1 (live_of_same h hkeeps.2 ?_)
  rw [Task.socketFile?, Task.socketFile?, hstage]
  rfl

/-- The step of a call. -/
theorem effect_of_advance {d : Daemon} (h : c.daemon.tasks[i]? = some task)
    (hstep : c.daemon.advanceTask i task = some d) : Effect c (.advance i) ⟨d, c.held⟩ := by
  have hdeed := deed?_advance h
  unfold Daemon.taskDeed? at hdeed
  unfold Daemon.advanceTask at hstep
  cases hstage : task.stage with
  | binding =>
      rw [hstage] at hstep
      cases hstep
      exact effect_of_bindTask h hstage
  | entering =>
      rw [hstage] at hstep hdeed
      cases hstep
      exact effect_of_setStage h hdeed (by simp) (by simp) (by rw [hstage]; rfl)
  | announced =>
      rw [hstage] at hstep hdeed
      cases hstep
      exact effect_of_setStage h hdeed (by simp) (by simp) (by rw [hstage]; rfl)
  | opening =>
      rw [hstage] at hstep hdeed
      cases hstep
      exact effect_of_openTask h hdeed hstage
  | accepting =>
      rw [hstage] at hstep hdeed
      dsimp only at hstep
      split at hstep
      · cases hstep
        exact effect_of_setStage h hdeed (c.daemon.estate_closeTask task)
          (c.daemon.tasks_closeTask task) (by rw [hstage]; rfl)
      · cases hstep
  | closed =>
      rw [hstage] at hstep hdeed
      cases hstep
      rw [releaseTask_eq_dropTask]
      exact effect_of_lost h hdeed (estate_endTask rfl (by rw [hstage]; rfl))
        (congrArg (List.modify · i _) (tasks_dropTask _ _)) (if_neg (by rintro ⟨⟩))
  | released =>
      rw [hstage] at hstep hdeed
      cases hstep
      exact effect_of_setStage h hdeed (by simp) (by simp) (by rw [hstage]; rfl)
  | leaving =>
      rw [hstage] at hstep hdeed
      cases hstep
      exact effect_of_setStage h hdeed (by simp) (by simp) (by rw [hstage]; rfl)
  | left =>
      rw [hstage] at hstep hdeed
      cases hstep
      exact effect_of_setStage h hdeed (by simp) (by simp) (by rw [hstage]; rfl)
  | reported =>
      rw [hstage] at hstep hdeed
      obtain ⟨result, -, rfl⟩ := Option.map_eq_some_iff.mp hstep
      exact effect_of_setStage h hdeed rfl rfl (by rw [hstage]; rfl)
  | returned result =>
      rw [hstage] at hstep
      cases hstep
  | cancelled =>
      rw [hstage] at hstep
      cases hstep

/-- A change of a call that concerns neither its endpoint nor its stage. -/
theorem effect_of_updateTask {move : Daemon.Move} {d : Daemon} {change : Task → Task}
    (hdeed : c.daemon.deed? move = none)
    (hestate : d.estate = c.daemon.estate) (htasks : d.tasks = c.daemon.tasks)
    (hsame : ∀ task, (change task).socketFile? = task.socketFile?) :
    Effect c move ⟨d.updateTask i change, c.held⟩ := by
  refine .quiet hdeed hestate ?_
  have hfiles := filterMap_modify Task.socketFile? c.daemon.tasks i hsame
  rw [live, live, Daemon.updateTask, htasks]
  exact List.Perm.of_eq (congrArg (c.held.filterMap Endpoint.socketFile? ++ ·) hfiles)

/-- The step of a watcher. -/
theorem effect_of_watch {trigger : Trigger} {d : Daemon}
    (hstep : c.daemon.advanceWatcher i task trigger = some d) :
    Effect c (.watch i trigger) ⟨d, c.held⟩ := by
  unfold Daemon.advanceWatcher at hstep
  split at hstep
  · split at hstep
    · cases hstep
      exact effect_of_updateTask rfl rfl rfl fun task => rfl
    · cases hstep
  · cases hstep
    exact effect_of_updateTask rfl (by simp) (by simp) fun task => rfl
  · cases hstep
    exact effect_of_updateTask rfl rfl rfl fun task => rfl
  · cases hstep
  · cases hstep
  · cases hstep

/-- The panic of an interrupt. -/
theorem effect_of_panic {d : Daemon} (hstep : c.daemon.panicTask i task = some d) :
    Effect c (.panic i) ⟨d, c.held⟩ := by
  unfold Daemon.panicTask at hstep
  split at hstep
  · cases hstep
    exact effect_of_updateTask rfl rfl rfl fun task => rfl
  · cases hstep

/-- A call that the system fails has no endpoint yet, or still owns its file. -/
theorem effect_of_fail {fault : SystemError} {d : Daemon} (h : c.daemon.tasks[i]? = some task)
    (hstep : c.daemon.failTask i task fault = some d) : Effect c (.fail i fault) ⟨d, c.held⟩ := by
  unfold Daemon.failTask at hstep
  cases hstage : task.stage with
  | binding =>
      rw [hstage] at hstep
      cases hstep
      exact effect_of_setStage h rfl rfl rfl (by rw [hstage]; rfl)
  | accepting =>
      rw [hstage] at hstep
      cases hstep
      refine .quiet rfl (c.daemon.estate_closeTask task) (live_of_same h
        (congrArg (List.modify · i _) (c.daemon.tasks_closeTask task)) ?_)
      rw [Task.socketFile?, Task.socketFile?, hstage]
      rfl
  | _ =>
      rw [hstage] at hstep
      cases hstep

/-- The end of a call that is cancelled. -/
theorem effect_of_cancel {d : Daemon} (h : c.daemon.tasks[i]? = some task)
    (hstep : c.daemon.cancelTask i task = some d) : Effect c (.cancel i) ⟨d, c.held⟩ := by
  have hdeed : c.daemon.deed? (.cancel i) = task.socketFile?.map .unlink := by
    rw [Daemon.deed?, h, Option.bind_some]
  unfold Daemon.cancelTask at hstep
  split at hstep
  · cases hstep
  · cases hstep
    let closed := if task.stage.isOpen then c.daemon.closeTask task else c.daemon
    have hclosed : closed.estate = c.daemon.estate ∧ closed.tasks = c.daemon.tasks := by
      change (if _ then _ else _ : Daemon).estate = _ ∧ (if _ then _ else _ : Daemon).tasks = _
      split
      · exact ⟨c.daemon.estate_closeTask task, c.daemon.tasks_closeTask task⟩
      · exact ⟨rfl, rfl⟩
    by_cases howns : task.stage.ownsFile = true
    · rw [if_pos howns]
      exact effect_of_lost h hdeed (estate_endTask hclosed.1 howns)
        (congrArg (List.modify · i _) ((tasks_dropTask _ _).trans hclosed.2))
        (if_neg (by rintro ⟨⟩))
    · rw [if_neg howns]
      have hnone : task.socketFile? = none := if_neg howns
      rw [hnone] at hdeed
      exact effect_of_setStage h hdeed hclosed.1 hclosed.2 (Bool.eq_false_iff.mpr howns).symm

theorem filterMap_toOption (result : Except BindError Endpoint) :
    result.toOption.toList.filterMap Endpoint.socketFile? = (fileOf? result).toList := by
  cases result with
  | error failure => rfl
  | ok endpoint => cases endpoint <;> rfl

/-- An endpoint that is given to an owner is live. -/
theorem live_of_given {d : Daemon} (htasks : d.tasks = c.daemon.tasks)
    (result : Except BindError Endpoint) :
    (Custody.mk d (c.held ++ result.toOption.toList)).live.Perm
      ((fileOf? result).toList ++ c.live) := by
  rw [live, live, htasks, List.filterMap_append, filterMap_toOption, ← List.append_assoc]
  exact List.perm_append_comm.append_right _

/-- An endpoint that is handed to a serving call stays live. -/
theorem live_of_serve {endpoint : Endpoint} (h : endpoint ∈ c.held) :
    (Custody.mk (c.daemon.serve endpoint) (c.held.erase endpoint)).live.Perm c.live := by
  have hfiles : (c.daemon.serve endpoint).tasks.filterMap Task.socketFile? =
      c.daemon.tasks.filterMap Task.socketFile? ++ endpoint.socketFile?.toList := by
    rw [Daemon.serve, List.filterMap_append, filterMap_cons_eq]
    exact congrArg (_ ++ ·) (List.append_nil _)
  have hheld := (List.perm_cons_erase h).filterMap Endpoint.socketFile?
  rw [filterMap_cons_eq] at hheld
  rw [live, live, hfiles, ← List.append_assoc]
  exact List.perm_append_comm.trans ((List.append_assoc _ _ _).symm ▸ hheld.symm.append_right _)

/-! ## All moves -/

/-- A move of custody is a move of the daemon. -/
theorem daemon_step {move : Daemon.Move} {c' : Custody} (h : c.step move = some c') :
    c.daemon.step move = some c'.daemon := by
  unfold step at h
  split at h
  · split at h
    · obtain ⟨d, hstep, rfl⟩ := Option.map_eq_some_iff.mp h
      exact hstep
    · cases h
  · obtain ⟨d, hstep, rfl⟩ := Option.map_eq_some_iff.mp h
    exact hstep

/-- A move of the daemon that takes no endpoint and gives none. -/
theorem step_of_daemon {d d' : Daemon} {held : List Endpoint} {move : Daemon.Move}
    (htaken : move.taken? = none) (hgiven : d.given? move = none) (h : d.step move = some d') :
    step ⟨d, held⟩ move = some ⟨d', held⟩ := by
  rw [step, htaken, hgiven]
  dsimp only
  rw [h, Option.toList_none, List.append_nil]
  rfl

/-- A move that takes no endpoint and gives none. -/
theorem step_of_plain {move : Daemon.Move} {c' : Custody} (htaken : move.taken? = none)
    (hgiven : c.daemon.given? move = none) (h : c.step move = some c') :
    ∃ d, c.daemon.step move = some d ∧ c' = ⟨d, c.held⟩ := by
  rw [step, htaken, hgiven] at h
  obtain ⟨d, hstep, rfl⟩ := Option.map_eq_some_iff.mp h
  exact ⟨d, hstep, by rw [Option.toList_none, List.append_nil]⟩

/-- A move that takes an endpoint. -/
theorem step_of_taken {move : Daemon.Move} {endpoint : Endpoint} {c' : Custody}
    (htaken : move.taken? = some endpoint) (h : c.step move = some c') :
    endpoint ∈ c.held ∧ ∃ d, c.daemon.step move = some d ∧ c' = ⟨d, c.held.erase endpoint⟩ := by
  rw [step, htaken] at h
  dsimp only at h
  split at h
  next hheld =>
    obtain ⟨d, hstep, rfl⟩ := Option.map_eq_some_iff.mp h
    exact ⟨hheld, d, hstep, rfl⟩
  · cases h

/-- Every move comes to one of the effects. -/
theorem effect_of_step {move : Daemon.Move} {c' : Custody} (h : c.step move = some c') :
    Effect c move c' := by
  cases move with
  | bind =>
      cases h
      obtain ⟨hresult, hestate, htasks⟩ := c.daemon.bind_keeps
      obtain ⟨count, hbegin⟩ := c.daemon.beginBind_eq
      rw [hbegin]
      refine effect_of_bind rfl hestate ?_
      rw [host, ← hresult]
      exact live_of_given htasks _
  | announce =>
      obtain ⟨d, hstep, rfl⟩ := step_of_plain rfl rfl h
      obtain ⟨count, rfl⟩ := Daemon.endBind_eq hstep
      refine .quiet rfl (Daemon.estate_announce _ _) (List.Perm.of_eq ?_)
      rw [live, live, Daemon.tasks_announce]
  | bindAt transport =>
      cases h
      exact effect_of_bind rfl rfl (live_of_given rfl _)
  | serve endpoint =>
      obtain ⟨hheld, d, hstep, rfl⟩ := step_of_taken rfl h
      cases hstep
      exact .quiet rfl rfl (live_of_serve hheld)
  | run =>
      obtain ⟨d, hstep, rfl⟩ := step_of_plain rfl rfl h
      cases hstep
      refine .quiet rfl rfl (List.Perm.of_eq ?_)
      rw [live, live, Daemon.run, List.filterMap_append]
      exact congrArg (c.held.filterMap Endpoint.socketFile? ++ ·) (List.append_nil _)
  | requestStop =>
      obtain ⟨d, hstep, rfl⟩ := step_of_plain rfl rfl h
      cases hstep
      exact .quiet rfl rfl (List.Perm.refl _)
  | interrupt i trigger =>
      obtain ⟨d, hstep, rfl⟩ := step_of_plain rfl rfl h
      cases hstep
      exact effect_of_updateTask rfl rfl rfl fun task => rfl
  | advance i =>
      obtain ⟨d, hstep, rfl⟩ := step_of_plain rfl rfl h
      obtain ⟨task, htask, hadvance⟩ := Option.bind_eq_some_iff.mp hstep
      exact effect_of_advance htask hadvance
  | watch i trigger =>
      obtain ⟨d, hstep, rfl⟩ := step_of_plain rfl rfl h
      obtain ⟨task, -, hwatch⟩ := Option.bind_eq_some_iff.mp hstep
      exact effect_of_watch hwatch
  | fail i fault =>
      obtain ⟨d, hstep, rfl⟩ := step_of_plain rfl rfl h
      obtain ⟨task, htask, hfail⟩ := Option.bind_eq_some_iff.mp hstep
      exact effect_of_fail htask hfail
  | panic i =>
      obtain ⟨d, hstep, rfl⟩ := step_of_plain rfl rfl h
      obtain ⟨task, -, hpanic⟩ := Option.bind_eq_some_iff.mp hstep
      exact effect_of_panic hpanic
  | cancel i =>
      obtain ⟨d, hstep, rfl⟩ := step_of_plain rfl rfl h
      obtain ⟨task, htask, hcancel⟩ := Option.bind_eq_some_iff.mp hstep
      exact effect_of_cancel htask hcancel
  | call address limit call =>
      obtain ⟨d, hstep, rfl⟩ := step_of_plain rfl rfl h
      cases hstep
      obtain ⟨hestate, htasks⟩ := c.daemon.call_keeps address limit call
      refine .quiet rfl hestate (List.Perm.of_eq ?_)
      rw [live, live, htasks]
  | drop endpoint =>
      obtain ⟨hheld, d, hstep, rfl⟩ := step_of_taken rfl h
      cases hstep
      exact effect_of_end hheld rfl
        (c.daemon.estate_afterEnd_dropFile (endpoint.close c.daemon.host) endpoint rfl rfl) rfl
  | release endpoint =>
      obtain ⟨hheld, d, hstep, rfl⟩ := step_of_taken rfl h
      cases hstep
      have hdrop := c.daemon.estate_afterEnd_dropFile (endpoint.close c.daemon.host) endpoint
        rfl rfl
      rw [← Endpoint.releaseFile_eq_dropFile] at hdrop
      exact effect_of_end hheld rfl hdrop rfl
  | meddle files =>
      obtain ⟨d, hstep, rfl⟩ := step_of_plain rfl rfl h
      cases hstep
      exact .meddled rfl rfl (List.Perm.refl _)

/-! ## Files after a deed -/

section

variable {move : Daemon.Move} {c' : Custody}

/-- The files after the end of an endpoint are those that its guard has left. -/
theorem files_of_unlink (heffect : Effect c move c') {file : SocketFile}
    (h : c.daemon.deed? move = some (.unlink file)) :
    c'.files = (guardUnlink c.files file.path).files := by
  cases heffect with
  | quiet hdeed => rw [hdeed] at h; cases h
  | bound hdeed => rw [hdeed] at h; cases h
  | refused hdeed => rw [hdeed] at h; cases h
  | meddled hmove => rw [hmove] at h; cases h
  | ended hdeed hestate _ =>
      rw [hdeed] at h
      cases h
      exact congrArg Estate.files hestate

/-- The files after an endpoint is to be bound are those that the attempt has left. -/
theorem files_of_bind (heffect : Effect c move c') {path : Path}
    (h : c.daemon.deed? move = some (.bind path)) :
    c'.files = (bindUnix c.host path).host.files := by
  cases heffect with
  | quiet hdeed => rw [hdeed] at h; cases h
  | ended hdeed => rw [hdeed] at h; cases h
  | meddled hmove => rw [hmove] at h; cases h
  | bound hdeed _ hestate _ =>
      rw [hdeed] at h
      cases h
      exact congrArg Estate.files hestate
  | refused hdeed _ hestate _ =>
      rw [hdeed] at h
      cases h
      exact congrArg Estate.files hestate

end

end Custody

end Beacon
