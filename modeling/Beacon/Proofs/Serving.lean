import Beacon.Program
import Beacon.Proofs.Daemon.Footing
import Beacon.Proofs.Release
import Beacon.Proofs.StopRequests

/-!
# Where a service is reached

A service that accepts connections is reached at the address of its transport, whatever else is
bound, served and ended beside it. Its call has bound its endpoint for the configured transport;
each endpoint that has not ended has an open listener to itself; and what a socket path leads to is
the socket whose file stands there.
-/

namespace Beacon

/-! ## The endpoint of a call -/

/-- The endpoint of a call, if it has one, was bound for a transport. -/
def Task.BoundFor (transport : Transport) (task : Task) : Prop :=
  ∀ endpoint, task.endpoint = some endpoint →
    ∃ host, (bindTransport host transport).result = .ok endpoint

namespace Daemon

variable {d d' : Daemon} {move : Move} {i : Nat} {task task' : Task}

theorem endpoint_of_bindTask (htask : d.tasks[i]? = some task)
    (htask' : (d.bindTask i).tasks[i]? = some task') :
    task'.endpoint = task.endpoint ∨
      ∃ endpoint, task'.endpoint = some endpoint ∧
        (bindTransport d.host d.config.transport).result = .ok endpoint := by
  obtain ⟨hresult, -, htasks⟩ := d.bind_keeps
  unfold bindTask at htask'
  cases hbind : d.bindUnannounced with
  | mk result after =>
      rw [hbind] at hresult htasks htask'
      cases result with
      | ok endpoint =>
          obtain ⟨before, -, rfl⟩ := eq_of_updateTask htask'
          exact .inr ⟨endpoint, rfl, hresult.symm⟩
      | error failure =>
          obtain ⟨before, hbefore, rfl⟩ := eq_of_updateTask htask'
          cases htask.symm.trans (htasks ▸ hbefore)
          exact .inl rfl

/-- No step gives a call an endpoint but one that is bound for the configured transport. -/
theorem endpoint_of_step (hstep : d.step move = some d') (htask : d.tasks[i]? = some task)
    (htask' : d'.tasks[i]? = some task') :
    task'.endpoint = task.endpoint ∨
      ∃ endpoint, task'.endpoint = some endpoint ∧
        (bindTransport d.host d.config.transport).result = .ok endpoint := by
  cases evolves_of_found hstep htask htask' with
  | stays | interrupted _ => exact .inl rfl
  | turns _ htakes =>
      cases htakes.turn with
      | binds hstage =>
          -- Nothing but the call's own turn takes it out of this stage with an endpoint.
          obtain rfl := move_of_entering hstep htask htask' (by rw [hstage]; rintro ⟨⟩) rfl
          obtain ⟨found, hfound, hadvance⟩ := Option.bind_eq_some_iff.mp hstep
          cases htask.symm.trans hfound
          rw [advanceTask, hstage] at hadvance
          cases hadvance
          exact endpoint_of_bindTask htask htask'
      | _ => exact .inl rfl

theorem boundFor_of_step (hstep : d.step move = some d') (htask : d.tasks[i]? = some task)
    (htask' : d'.tasks[i]? = some task') (h : task.BoundFor d.config.transport) :
    task'.BoundFor d.config.transport := by
  intro endpoint hendpoint
  obtain hsame | ⟨bound, hbound, hresult⟩ := endpoint_of_step hstep htask htask'
  · exact h endpoint (hsame ▸ hendpoint)
  · cases hendpoint.symm.trans hbound
    exact ⟨d.host, hresult⟩

/-- Whatever happens, a call without an endpoint of somebody else's keeps to the transport. -/
theorem boundFor_of_reaches (hreaches : d.Reaches d') (htask : d.tasks[i]? = some task)
    (h : task.BoundFor d.config.transport) :
    ∃ task', d'.tasks[i]? = some task' ∧ task'.BoundFor d.config.transport := by
  induction hreaches with
  | refl => exact ⟨task, htask, h⟩
  | @step middle after hreaches hsteps ih =>
      obtain ⟨move, hstep⟩ := hsteps
      obtain ⟨between, hbetween, hbound⟩ := ih
      obtain ⟨task', htask', -⟩ := evolves_of_step hstep hbetween
      have hconfig : middle.config = d.config := congrArg Prod.fst (footing_of_reaches hreaches)
      rw [← hconfig] at hbound ⊢
      exact ⟨task', htask', boundFor_of_step hstep hbetween htask' hbound⟩

theorem isServed_of_accepting {endpoint : Endpoint} (hmem : task ∈ d.tasks)
    (hstage : task.stage = .accepting) (hendpoint : task.endpoint = some endpoint) :
    d.isServed endpoint.listener = true := by
  refine List.any_eq_true.mpr ⟨task, hmem, ?_⟩
  simp only [hstage, hendpoint, beq_self_eq_true]

end Daemon

/-! ## Open listeners -/

namespace Custody

variable {c c' : Custody} {move : Daemon.Move}

/-- Each endpoint that has not ended has a listener to itself, and the listener is open. -/
structure Listening (c : Custody) : Prop where
  nodup : c.listeners.Nodup
  opened : c.listeners ⊆ c.host.listening

/-- A listener that is about to be opened is nobody's yet. -/
theorem Listening.not_mem_of_opens (h : c.Listening) (haccounted : c.Accounted)
    {listener : Listener} (hport : ∀ port, listener = .tcp port → listener ∉ c.host.listening)
    (hsocket : ∀ socket, listener = .unix socket → socket = c.host.nextSocket) :
    listener ∉ c.listeners := by
  intro hmem
  cases listener with
  | tcp port => exact hport port rfl (h.opened hmem)
  | unix socket =>
      obtain ⟨file, hlive, hsame⟩ := exists_live_of_listener hmem
      have hfresh := haccounted.fresh file (List.mem_append_left _ hlive)
      exact Nat.ne_of_lt hfresh (hsame.trans (hsocket socket rfl))

theorem Listening.of_step (h : c.Listening) (haccounted : c.Accounted)
    (hstep : c.step move = some c') : c'.Listening := by
  obtain ⟨before, after, hlistens, hperm⟩ := attends_of_step hstep
  cases hlistens with
  | keeps hlistening =>
      have hsame : c.listeners.Perm c'.listeners := (List.perm_append_left_iff _).mp hperm
      refine ⟨hsame.nodup_iff.mp h.nodup, fun listener hmem => ?_⟩
      rw [hlistening]
      exact h.opened (hsame.mem_iff.mpr hmem)
  | @opens listener hport hsocket hlistening =>
      have hopened : (listener :: c.listeners).Perm c'.listeners := hperm
      have hfree := h.not_mem_of_opens haccounted hport hsocket
      refine ⟨hopened.nodup_iff.mp (List.nodup_cons.mpr ⟨hfree, h.nodup⟩), fun other hmem => ?_⟩
      rw [hlistening]
      exact List.cons_subset_cons listener h.opened (hopened.mem_iff.mpr hmem)
  | @closes listener hlistening =>
      have hclosed : c.listeners.Perm (listener :: c'.listeners) := hperm
      -- What closes was one endpoint's only, so no other endpoint loses its listener.
      have hnodup := List.nodup_cons.mp (hclosed.nodup_iff.mp h.nodup)
      refine ⟨hnodup.2, fun other hmem => ?_⟩
      rw [hlistening, List.mem_filter]
      refine ⟨h.opened (hclosed.mem_iff.mpr (List.mem_cons_of_mem _ hmem)), bne_iff_ne.mpr ?_⟩
      rintro rfl
      exact hnodup.1 hmem

theorem Listening.of_runs {allowed : Custody → Daemon.Move → Custody → Prop}
    (h : c.Listening) (haccounted : c.Accounted) (hrun : Runs allowed c c') : c'.Listening := by
  induction hrun with
  | refl => exact h
  | step hrun hstep _ ih => exact ih.of_step (haccounted.of_runs hrun) hstep

/-! ## Reaching a call -/

/-- A client can get through to an endpoint: to a port, if loopback addresses can be reached, and to
a path, if the socket file of the endpoint stands there. -/
inductive Accessible (c : Custody) : Endpoint → Prop where
  | tcp {port : Port} (hloopback : c.host.loopback = true) : Accessible c (.tcp port)
  | unix {socket mode : Nat} {path : Path} (hholds : c.files.Holds path (.socket socket mode)) :
      Accessible c (.unix socket path)

/-- Where socket files are kept, clients get through to all calls that accept connections. -/
theorem Kept.accessible (h : c.Kept) (hloopback : c.host.loopback = true) {task : Task}
    (hmem : task ∈ c.daemon.tasks) (hopen : task.stage.isOpen = true) {endpoint : Endpoint}
    (hendpoint : task.endpoint = some endpoint) : c.Accessible endpoint := by
  cases endpoint with
  | tcp port => exact .tcp hloopback
  | unix socket path =>
      have hfile : task.socketFile? = some ⟨socket, path⟩ := by
        rw [Task.socketFile?, if_pos (Stage.ownsFile_of_isOpen hopen), hendpoint]
        rfl
      exact .unix (h _ (List.mem_append_right _ (List.mem_filterMap.mpr ⟨task, hmem, hfile⟩)))

/-- A client that can get through to the endpoint of a call reaches the listener of the call. -/
theorem Listening.reach (h : c.Listening) {task : Task} (hmem : task ∈ c.daemon.tasks)
    (hopen : task.stage.isOpen = true) {transport : Transport} (hbound : task.BoundFor transport)
    {endpoint : Endpoint} (hendpoint : task.endpoint = some endpoint)
    (haccessible : c.Accessible endpoint) :
    c.host.reach endpoint.address = .ok endpoint.listener := by
  have hlistener : task.listener? = some endpoint.listener := by
    rw [Task.listener?, if_pos hopen, hendpoint]
    rfl
  have hlistening : endpoint.listener ∈ c.host.listening :=
    h.opened (List.mem_append_right _ (List.mem_filterMap.mpr ⟨task, hmem, hlistener⟩))
  cases haccessible with
  | tcp hloopback =>
      rw [Endpoint.address, Host.reach, hloopback, if_neg (by decide)]
      exact if_pos hlistening
  | @unix socket mode path hholds =>
      obtain ⟨host, hresult⟩ := hbound _ hendpoint
      have hat : c.host.files.socketAt path = .ok socket :=
        FileSystem.socketAt_of_holds hholds (length_of_bindTransport hresult)
      rw [Endpoint.address, Host.reach, hat]
      exact if_pos hlistening

end Custody

end Beacon
