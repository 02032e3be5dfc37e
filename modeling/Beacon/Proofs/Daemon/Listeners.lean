import Beacon.Proofs.Daemon.Standing

/-!
# Who has the listeners

Every endpoint that has not ended has its listener, in the hands of its owner or of a serving call.
A move opens the listener of the endpoint that it binds, or closes that of the endpoint that it
ends, or leaves the listeners alone. So what is open at the address of an endpoint that has ended
belongs to another one.
-/

namespace Beacon

namespace Custody

/-- The listeners of the endpoints that have not ended: those that are held, and those that serving
calls own. -/
def listeners (c : Custody) : List Listener :=
  c.held.map Endpoint.listener ++ c.daemon.tasks.filterMap Task.listener?

/-- A move opens what is owned after it and was not before, and closes what is owned no more. -/
def Attends (c c' : Custody) : Prop :=
  ∃ before after : Option Listener, c.host.Listens c'.host before after ∧
    (after.toList ++ c.listeners).Perm (before.toList ++ c'.listeners)

variable {c c' : Custody} {move : Daemon.Move} {d : Daemon}

/-! ## One lemma for each kind of move -/

/-- A move that opens and closes nothing. -/
theorem attends_of_same (hlistening : c'.host.listening = c.host.listening)
    (hlisteners : c'.listeners.Perm c.listeners) : c.Attends c' :=
  ⟨none, none, .keeps hlistening, hlisteners.symm⟩

/-- A move that changes nothing of what calls and owners have. -/
theorem attends_of_quiet (hlistening : d.host.listening = c.host.listening)
    (htasks : d.tasks = c.daemon.tasks) : c.Attends ⟨d, c.held⟩ := by
  refine attends_of_same hlistening (List.Perm.of_eq ?_)
  rw [listeners, listeners, htasks]

/-- The turn of a call opens or closes what the call has. -/
theorem attends_of_takes {i : Nat} {task task' : Task} {phase : Option Phase}
    (htakes : c.daemon.Takes i task phase task' d) : c.Attends ⟨d, c.held⟩ := by
  refine ⟨task.listener?, task'.listener?, htakes.listens, ?_⟩
  rw [listeners, listeners, htakes.tasks]
  exact append_filterMap_set_perm Task.listener? _ htakes.found task'

/-- A bind opens the listener of the endpoint that it gives to an owner. -/
theorem attends_of_bind {result : Except BindError Endpoint} (htasks : d.tasks = c.daemon.tasks)
    (hlistens : c.host.Listens d.host none (result.toOption.map Endpoint.listener)) :
    c.Attends ⟨d, c.held ++ result.toOption.toList⟩ := by
  refine ⟨none, _, hlistens, ?_⟩
  have hgiven : result.toOption.toList.map Endpoint.listener =
      (result.toOption.map Endpoint.listener).toList := by
    cases result <;> rfl
  rw [listeners, listeners, htasks, List.map_append, hgiven, ← List.append_assoc]
  exact List.perm_append_comm.append_right _

/-- The end of an endpoint that is held closes its listener. -/
theorem attends_of_end {endpoint : Endpoint} (hheld : endpoint ∈ c.held)
    (hlistening : d.host.listening = c.host.listening.filter (· != endpoint.listener))
    (htasks : d.tasks = c.daemon.tasks) : c.Attends ⟨d, c.held.erase endpoint⟩ := by
  refine ⟨some endpoint.listener, none, .closes hlistening, ?_⟩
  rw [listeners, listeners, htasks, ← List.append_assoc]
  exact ((List.perm_cons_erase hheld).map Endpoint.listener).append_right _

/-- An endpoint that is handed to a serving call keeps its listener. -/
theorem attends_of_serve {endpoint : Endpoint} (hheld : endpoint ∈ c.held) :
    c.Attends ⟨c.daemon.serve endpoint, c.held.erase endpoint⟩ := by
  have hcalls : (c.daemon.serve endpoint).tasks.filterMap Task.listener? =
      c.daemon.tasks.filterMap Task.listener? ++ [endpoint.listener] := by
    rw [Daemon.serve, List.filterMap_append]
    rfl
  refine attends_of_same rfl ?_
  have hbefore := (List.perm_cons_erase hheld).map Endpoint.listener
  rw [listeners, listeners, hcalls, ← List.append_assoc]
  exact List.perm_append_comm.trans (hbefore.symm.append_right _)

theorem listening_drop (host : Host) (endpoint : Endpoint) :
    (endpoint.drop host).host.listening =
      host.listening.filter (· != endpoint.listener) := by
  cases endpoint <;> rfl

theorem listening_release (host : Host) (endpoint : Endpoint) :
    (endpoint.release host).host.listening =
      host.listening.filter (· != endpoint.listener) := by
  rw [Endpoint.release, Endpoint.releaseFile_eq_dropFile]
  exact listening_drop host endpoint

/-! ## All moves -/

/-- A move that is the turn of a call. -/
theorem attends_of_turn {i : Nat} (hmove : move.turn? = some i) (htaken : move.taken? = none)
    (hgiven : c.daemon.given? move = none) (h : c.step move = some c') : c.Attends c' := by
  obtain ⟨d, hstep, rfl⟩ := step_of_plain htaken hgiven h
  obtain ⟨task, phase, task', htakes⟩ := Daemon.takes_of_step hmove hstep
  exact attends_of_takes htakes

theorem attends_of_step (h : c.step move = some c') : c.Attends c' := by
  cases move with
  | bind =>
      cases h
      obtain ⟨count, hbegin⟩ := c.daemon.beginBind_eq
      obtain ⟨-, -, -, hlistens⟩ := c.daemon.bindUnannounced_keeps
      rw [hbegin]
      exact attends_of_bind c.daemon.bind_keeps.2.2 hlistens
  | announce =>
      obtain ⟨d, hstep, rfl⟩ := step_of_plain rfl rfl h
      obtain ⟨count, rfl⟩ := Daemon.endBind_eq hstep
      obtain ⟨htasks, -, hhost, -⟩ :=
        Daemon.announceIf_keeps { c.daemon with unannounced := count } (some .bound)
      exact attends_of_quiet (congrArg Host.listening hhost) htasks
  | bindAt transport =>
      cases h
      exact attends_of_bind rfl (listens_bindTransport c.host transport)
  | serve endpoint =>
      obtain ⟨hheld, d, hstep, rfl⟩ := step_of_taken rfl h
      cases hstep
      exact attends_of_serve hheld
  | run =>
      obtain ⟨d, hstep, rfl⟩ := step_of_plain rfl rfl h
      cases hstep
      refine attends_of_same rfl (List.Perm.of_eq ?_)
      rw [listeners, listeners, Daemon.run, List.filterMap_append]
      exact congrArg (c.held.map Endpoint.listener ++ ·) (List.append_nil _)
  | requestStop =>
      obtain ⟨d, hstep, rfl⟩ := step_of_plain rfl rfl h
      cases hstep
      exact attends_of_quiet rfl rfl
  | interrupt i trigger =>
      obtain ⟨d, hstep, rfl⟩ := step_of_plain rfl rfl h
      cases hstep
      refine attends_of_same rfl (List.Perm.of_eq ?_)
      exact congrArg (c.held.map Endpoint.listener ++ ·)
        (filterMap_modify Task.listener? c.daemon.tasks i fun task => rfl)
  | advance i => exact attends_of_turn rfl rfl rfl h
  | watch i trigger => exact attends_of_turn rfl rfl rfl h
  | fail i fault => exact attends_of_turn rfl rfl rfl h
  | panic i => exact attends_of_turn rfl rfl rfl h
  | cancel i => exact attends_of_turn rfl rfl rfl h
  | call address limit call =>
      obtain ⟨d, hstep, rfl⟩ := step_of_plain rfl rfl h
      cases hstep
      have halike := c.daemon.alike_call address limit call
      exact attends_of_quiet halike.listening halike.tasks
  | drop endpoint =>
      obtain ⟨hheld, d, hstep, rfl⟩ := step_of_taken rfl h
      cases hstep
      exact attends_of_end hheld (listening_drop c.host endpoint) rfl
  | release endpoint =>
      obtain ⟨hheld, d, hstep, rfl⟩ := step_of_taken rfl h
      cases hstep
      exact attends_of_end hheld (listening_release c.host endpoint) rfl
  | meddle files =>
      obtain ⟨d, hstep, rfl⟩ := step_of_plain rfl rfl h
      cases hstep
      exact attends_of_quiet rfl rfl

/-! ## Endpoints that have ended -/

/-- What is open at the address of a call that has closed its endpoint belongs to another endpoint,
one that has not ended. -/
def ClosesBehind (c : Custody) : Prop :=
  ∀ task ∈ c.daemon.tasks, ∀ endpoint, task.endpoint = some endpoint →
    task.stage.isOpen = false → endpoint.listener ∈ c.host.listening →
      endpoint.listener ∈ c.listeners

/-- What is open after a move belongs to an endpoint that has not ended, if it did before. -/
theorem Attends.mem_listeners (h : c.Attends c') {listener : Listener}
    (hbefore : listener ∈ c.host.listening → listener ∈ c.listeners)
    (hopen : listener ∈ c'.host.listening) : listener ∈ c'.listeners := by
  obtain ⟨before, after, hlistens, hperm⟩ := h
  have hmem : listener ∈ after.toList ++ c.listeners → some listener ≠ before →
      listener ∈ c'.listeners := by
    intro hmem hne
    obtain hmem | hmem := List.mem_append.mp (hperm.mem_iff.mp hmem)
    · exact absurd (Option.mem_toList.mp hmem).symm hne
    · exact hmem
  cases hlistens with
  | keeps hlistening =>
      rw [hlistening] at hopen
      exact ((List.perm_append_left_iff _).mp hperm).mem_iff.mp (hbefore hopen)
  | opens _ _ hlistening =>
      refine hmem ?_ (by rintro ⟨⟩)
      rw [hlistening] at hopen
      obtain rfl | hopen := List.mem_cons.mp hopen
      · exact List.mem_cons_self
      · exact List.mem_cons_of_mem _ (hbefore hopen)
  | closes hlistening =>
      rw [hlistening, List.mem_filter] at hopen
      refine hmem (hbefore hopen.1) ?_
      rintro ⟨⟩
      simp at hopen

/-- A call that is open and is not after its turn has closed its listener. -/
theorem not_listening_of_takes {i : Nat} {task task' : Task} {phase : Option Phase}
    (htakes : c.daemon.Takes i task phase task' d) (hbefore : task.stage.isOpen = true)
    (hafter : task'.stage.isOpen = false) {endpoint : Endpoint}
    (hendpoint : task.endpoint = some endpoint) : endpoint.listener ∉ d.host.listening := by
  have hlistens := htakes.listens
  rw [Task.listener?, Task.listener?, if_pos hbefore, hafter, if_neg Bool.false_ne_true,
    hendpoint] at hlistens
  cases hlistens with
  | closes hlistening =>
      rw [hlistening, List.mem_filter]
      rintro ⟨-, hne⟩
      exact absurd rfl (bne_iff_ne.mp hne)

theorem ClosesBehind.of_step (h : c.ClosesBehind) (hstep : c.step move = some c') :
    c'.ClosesBehind := by
  intro task' hmem endpoint hendpoint hclosed hopen
  have hbegun : task'.stage ≠ .entering := by
    intro hentering
    rw [hentering] at hclosed
    cases hclosed
  refine (attends_of_step hstep).mem_listeners (fun hbefore => ?_) hopen
  obtain ⟨i, hi, htask'⟩ := List.mem_iff_getElem.mp hmem
  obtain ⟨task, htask, hevolves⟩ | ⟨given, rfl⟩ := Daemon.origin_of_step (daemon_step hstep)
    (List.getElem?_eq_some_iff.mpr ⟨hi, htask'⟩)
  · have htaskmem := List.mem_of_getElem? htask
    cases hevolves with
    | stays => exact h _ htaskmem endpoint hendpoint hclosed hbefore
    | interrupted _ => exact h task htaskmem endpoint hendpoint hclosed hbefore
    | turns _ htakes =>
        rw [htakes.turn.keeps.2.1 hbegun] at hendpoint
        by_cases hwasOpen : task.stage.isOpen = true
        · exact absurd hopen (not_listening_of_takes htakes hwasOpen hclosed hendpoint)
        · exact h task htaskmem endpoint hendpoint (Bool.eq_false_iff.mpr hwasOpen) hbefore
  · cases hendpoint
    exact absurd rfl hbegun

theorem ClosesBehind.of_runs {allowed : Custody → Daemon.Move → Custody → Prop}
    (h : c.ClosesBehind) (hrun : Runs allowed c c') : c'.ClosesBehind := by
  induction hrun with
  | refl => exact h
  | step _ hstep _ ih => exact ih.of_step hstep

end Custody

end Beacon
