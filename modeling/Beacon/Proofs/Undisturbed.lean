import Beacon.Proofs.Leftovers
import Beacon.Proofs.Probing

/-!
# Services that are left to themselves

A service that has been started has one call, and nothing ends it but a signal. Its call binds, and
from then on it shows how the bind has come out: it has the endpoint, or it has returned the
failure, before anything was announced. The socket file of the service is its own, so nobody puts
anything in its way.
-/

namespace Beacon

/-! ## What happens to a service -/

/-- What happens to a service on a host. Its call and its watcher take their steps, signals and
clients come, and others change files; but they leave alone what the path of its socket file depends
on, and they take the file nowhere else. The signals can be handled and the accept loop does not
break off, and nobody cancels the call or requests a stop. -/
inductive Serving.Happens (host : Host) (c : Custody) : Daemon.Move → Custody → Prop where
  | advances {c' : Custody} : Happens host c (.advance 0) c'
  | watches {trigger : Trigger} {c' : Custody} : Happens host c (.watch 0 trigger) c'
  | signalled {trigger : Trigger} {c' : Custody} (hsignal : trigger ≠ .requested) :
      Happens host c (.interrupt 0 trigger) c'
  | called {address : Address} {limit : Duration} {call : Client.Call} {c' : Custody} :
      Happens host c (.call address limit call) c'
  | meddled {files : FileSystem} {c' : Custody}
      (huntouched : ∀ file ∈ c.live, c.files.Untouched files file.path)
      (hsockets : c.files.AddsNoSocket files host.nextSocket) : Happens host c (.meddle files) c'

/-- A move that neither harms the first call nor announces that something is bound. -/
structure Daemon.Move.Spares (move : Daemon.Move) : Prop where
  unfailed : ∀ fault, move ≠ .fail 0 fault
  unpanicked : move ≠ .panic 0
  uncancelled : move ≠ .cancel 0
  unannounced : move ≠ .announce

/-- A custody of one call, which nothing has come to but signals, and of nothing else. -/
structure Custody.Undisturbed (c : Custody) (task : Task) : Prop where
  held : c.held = []
  tasks : c.daemon.tasks = [task]
  unrequested : c.daemon.stopRequested = false
  unbroken : task.failure = none
  watched : task.watcher ≠ .lost
  kept : task.stage ≠ .cancelled
  signalled : task.interrupt ≠ some .requested
  /-- Nothing is announced before the call has an endpoint. -/
  unannounced : task.endpoint = none → c.daemon.history = (.unstarted, [])

namespace Serving

variable {host : Host} {c c' : Custody} {move : Daemon.Move} {task task' : Task}

theorem Happens.spares (h : Happens host c move c') : move.Spares := by
  cases h <;> exact ⟨fun _ => by rintro ⟨⟩, by rintro ⟨⟩, by rintro ⟨⟩, by rintro ⟨⟩⟩

/-- No endpoint passes from hand to hand in what happens to a service. -/
theorem Happens.plain (h : Happens host c move c') :
    move.taken? = none ∧ c.daemon.given? move = none := by
  cases h <;> exact ⟨rfl, rfl⟩

theorem Happens.step (h : Happens host c move c') (hstep : c.step move = some c') :
    c.daemon.step move = some c'.daemon ∧ c'.held = c.held := by
  obtain ⟨htaken, hgiven⟩ := h.plain
  obtain ⟨d, hdaemon, rfl⟩ := Custody.step_of_plain htaken hgiven hstep
  exact ⟨hdaemon, rfl⟩

/-- No call begins, and no stop is requested, in what happens to a service. -/
theorem Happens.tasks (h : Happens host c move c') (hstep : c.step move = some c') :
    c'.daemon.tasks.length = c.daemon.tasks.length ∧
      c'.daemon.stopRequested = c.daemon.stopRequested := by
  obtain ⟨htaken, hgiven⟩ := h.plain
  obtain ⟨d, hdaemon, rfl⟩ := Custody.step_of_plain htaken hgiven hstep
  have hturn : ∀ i, move.turn? = some i → d.tasks.length = c.daemon.tasks.length ∧
      d.stopRequested = c.daemon.stopRequested := by
    intro i hmove
    obtain ⟨found, phase, after, htakes⟩ := Daemon.takes_of_step hmove hdaemon
    exact ⟨by rw [htakes.tasks, List.length_set], htakes.stop⟩
  cases h with
  | advances => exact hturn 0 rfl
  | watches => exact hturn 0 rfl
  | signalled =>
      cases hdaemon
      exact ⟨List.length_modify .., rfl⟩
  | @called address limit call =>
      cases hdaemon
      have halike := c.daemon.alike_call address limit call
      exact ⟨congrArg List.length halike.tasks, halike.stop⟩
  | meddled =>
      cases hdaemon
      exact ⟨rfl, rfl⟩

end Serving

/-! ## One call, and signals -/

/-- A call that has no endpoint on a daemon that has announced nothing announces nothing. -/
theorem Task.Sound.phase_of_turn {d : Daemon} {task task' : Task} {phase : Option Phase}
    (h : task.Sound d) (hphase : d.phase = .unstarted) (hendpoint : task.endpoint = none)
    (hturn : task.Turn d phase task') : phase = none := by
  cases hturn with
  | proceeds hnext =>
      have hcoheres := h.coheres
      unfold Task.Coheres at hcoheres
      cases hstage : task.stage with
      | entering | announced | released | leaving =>
          rw [hstage, hendpoint] at hcoheres
          cases hcoheres.1
      | left =>
          rw [hstage] at hnext
          cases hnext
          rfl
      | _ =>
          rw [hstage] at hnext
          cases hnext
  | warns hwatcher =>
      have hfloor := h.watcher
      rw [hwatcher, hphase] at hfloor
      exact absurd hfloor (Nat.not_succ_le_zero 1)
  | _ => rfl

theorem Task.Coheres.isOpen_eq_false {task : Task} (h : task.Coheres)
    (hendpoint : task.endpoint = none) : task.stage.isOpen = false := by
  unfold Task.Coheres at h
  cases hstage : task.stage with
  | entering | announced | opening | accepting =>
      rw [hstage, hendpoint] at h
      cases h.1
  | _ => rfl

namespace Custody

variable {host : Host} {c c' : Custody} {move : Daemon.Move} {task task' : Task}

theorem Undisturbed.found (h : c.Undisturbed task) : c.daemon.tasks[0]? = some task := by
  rw [h.tasks]
  rfl

theorem Undisturbed.sound (h : c.Undisturbed task) (hsound : c.daemon.Sound) :
    task.Sound c.daemon :=
  hsound.calls task (List.mem_of_getElem? h.found)

/-- What happens to a service leaves its watcher to it. -/
theorem Undisturbed.watched_of_step (h : c.Undisturbed task)
    (hhappens : Serving.Happens host c move c') (hstep : c.daemon.step move = some c'.daemon)
    (htask' : c'.daemon.tasks[0]? = some task') : task'.watcher ≠ .lost := by
  intro hlost
  have hheeds := Daemon.heeds_of_step hstep h.found htask'
  rw [hlost] at hheeds
  generalize hwatcher : Watcher.lost = watcher at hheeds
  cases hheeds with
  | stays => exact h.watched hwatcher.symm
  | vanishes hmove _ => exact hhappens.spares.unpanicked hmove
  | _ => cases hwatcher

/-- Nothing comes to the interrupt of a call but signals. -/
theorem Undisturbed.signalled_of_step (h : c.Undisturbed task)
    (hhappens : Serving.Happens host c move c')
    (hevolves : c.daemon.Evolves move c'.daemon 0 task task') :
    task'.interrupt ≠ some .requested := by
  cases hevolves with
  | stays => exact h.signalled
  | turns _ htakes =>
      rw [htakes.turn.keeps.2.2]
      exact h.signalled
  | @interrupted trigger hmove =>
      subst hmove
      cases hhappens with
      | signalled hsignal =>
          have hbefore := h.signalled
          change some (task.interrupt.getD trigger) ≠ _
          cases hinterrupt : task.interrupt with
          | none => exact fun hsame => hsignal (Option.some.inj hsame)
          | some earlier =>
              rw [hinterrupt] at hbefore
              exact hbefore

theorem Undisturbed.unannounced_of_step (h : c.Undisturbed task) (hsound : c.daemon.Sound)
    (hhappens : Serving.Happens host c move c') (hstep : c.daemon.step move = some c'.daemon)
    (hendpoint : task.endpoint = none) : c'.daemon.history = (.unstarted, []) := by
  have hbefore := h.unannounced hendpoint
  cases Daemon.progress_of_step hstep with
  | @turn i taken after phase hmove htakes =>
      obtain rfl : taken = task := by
        have hmem := List.mem_of_getElem? htakes.found
        rw [h.tasks] at hmem
        exact List.mem_singleton.mp hmem
      obtain rfl := (h.sound hsound).phase_of_turn (congrArg Prod.fst hbefore) hendpoint htakes.turn
      exact htakes.history.trans hbefore
  | begins _ _ _ hhistory _ => exact hhistory.trans hbefore
  | interrupts _ _ hhistory _ => exact hhistory.trans hbefore
  | announces hmove _ _ _ => exact absurd hmove hhappens.spares.unannounced
  | stops _ _ hhistory _ => exact hhistory.trans hbefore
  | rests _ _ hhistory _ => exact hhistory.trans hbefore

/-- What happens to a service leaves it one call, and nothing but signals comes to it. -/
theorem Undisturbed.of_step (h : c.Undisturbed task) (hsound : c.daemon.Sound)
    (hhappens : Serving.Happens host c move c') (hstep : c.step move = some c') :
    ∃ task', c'.Undisturbed task' ∧ c.daemon.Evolves move c'.daemon 0 task task' := by
  obtain ⟨hdaemon, hheld⟩ := hhappens.step hstep
  obtain ⟨hlength, hstop⟩ := hhappens.tasks hstep
  obtain ⟨task', htask', hevolves⟩ := Daemon.evolves_of_step hdaemon h.found
  have htasks : c'.daemon.tasks = [task'] := by
    rw [h.tasks] at hlength
    obtain ⟨single, hsingle⟩ := List.length_eq_one_iff.mp hlength
    rw [hsingle] at htask' ⊢
    rw [Option.some.inj htask']
  refine ⟨task', ⟨hheld.trans h.held, htasks, hstop.trans h.unrequested, ?_,
    h.watched_of_step hhappens hdaemon htask', ?_, h.signalled_of_step hhappens hevolves, ?_⟩,
    hevolves⟩
  · exact (Daemon.failure_of_step hdaemon h.found htask' hhappens.spares.unfailed).trans h.unbroken
  · exact fun hcancelled => hhappens.spares.uncancelled
      (Daemon.move_of_cancelled hdaemon h.found htask' h.kept hcancelled)
  · intro hendpoint
    refine h.unannounced_of_step hsound hhappens hdaemon (Option.not_isSome_iff_eq_none.mp ?_)
    intro hsome
    have hsome' := hevolves.endpoint_isSome hsome
    rw [hendpoint] at hsome'
    cases hsome'

/-- What happens to a service puts nothing in the way of its socket file: its call binds only once,
and others take care. -/
theorem Undisturbed.considerate (h : c.Undisturbed task) (hsound : c.daemon.Sound)
    (hhappens : Serving.Happens host c move c') (hstep : c.step move = some c') :
    Considerate c move c' := by
  cases hhappens with
  | advances =>
      intro deed hdeed hwrites file hmem
      obtain ⟨found, hfound, htaskDeed⟩ := Option.bind_eq_some_iff.mp hdeed
      cases h.found.symm.trans hfound
      unfold Daemon.taskDeed? at htaskDeed
      split at htaskDeed
      next hstage =>
        have hcoheres := (h.sound hsound).coheres
        rw [Task.Coheres, hstage] at hcoheres
        rw [live, h.held, h.tasks] at hmem
        simp [Task.socketFile?, hcoheres.1] at hmem
      · obtain ⟨gone, -, rfl⟩ := Option.map_eq_some_iff.mp htaskDeed
        cases hwrites
      · cases htaskDeed
  | watches => exact considerate_of_no_deed rfl
  | signalled => exact considerate_of_no_deed rfl
  | called => exact considerate_of_no_deed rfl
  | @meddled files _ huntouched _ =>
      intro deed _ _ file hmem
      obtain ⟨d, hdaemon, rfl⟩ := step_of_plain rfl rfl hstep
      cases hdaemon
      exact huntouched file hmem

end Custody

/-! ## How the bind has come out -/

/-- A call shows how its bind has come out: it has the endpoint, or has returned the failure. -/
def Task.Shows (task : Task) : Except BindError Endpoint → Prop
  | .ok endpoint => task.endpoint = some endpoint
  | .error failure => task.endpoint = none ∧ task.stage = .returned (.error (.bind failure))

namespace Daemon

variable {d d' : Daemon} {move : Move} {i : Nat} {task task' : Task}
  {result : Except BindError Endpoint}

theorem shows_of_bindTask (htask : d.tasks[i]? = some task) (hendpoint : task.endpoint = none)
    (htask' : (d.bindTask i).tasks[i]? = some task') :
    task'.Shows (bindTransport d.host d.config.transport).result := by
  obtain ⟨hresult, -, htasks⟩ := d.bind_keeps
  unfold bindTask at htask'
  cases hbind : d.bindUnannounced with
  | mk result after =>
      rw [hbind] at hresult htasks htask'
      rw [← hresult]
      cases result with
      | ok endpoint =>
          rw [eq_of_update htask htasks htask']
          rfl
      | error failure =>
          rw [eq_of_update htask htasks htask']
          exact ⟨hendpoint, rfl⟩

/-- Whatever happens, a call goes on to show how its bind has come out. -/
theorem Evolves.shows (hevolves : d.Evolves move d' i task task') (hcoheres : task.Coheres)
    (h : task.Shows result) : task'.Shows result := by
  cases hevolves with
  | stays => exact h
  | interrupted _ => cases result <;> exact h
  | turns _ htakes =>
      have hturn := htakes.turn
      cases result with
      | ok endpoint =>
          have hbinding : task.stage ≠ .binding := by
            intro hstage
            rw [Task.Coheres, hstage] at hcoheres
            cases hcoheres.1.symm.trans h
          exact (hturn.keeps.1 hbinding).trans h
      | error failure =>
          obtain ⟨hendpoint, hstage⟩ := h
          have hbinding : task.stage ≠ .binding := by
            rw [hstage]
            rintro ⟨⟩
          refine ⟨(hturn.keeps.1 hbinding).trans hendpoint, ?_⟩
          cases hturn with
          | wakes _ _ | warns _ | hands _ | loses _ _ => exact hstage
          | proceeds hnext =>
              rw [hstage] at hnext
              cases hnext
          | cancels hover =>
              rw [hstage] at hover
              cases hover
          | binds hat | refused hat | opens hat | closes hat | breaks hat | releases hat
          | returns hat =>
              cases hstage.symm.trans hat

theorem shows_of_reaches (hreaches : d.Reaches d') (hsound : d.Sound)
    (htask : d.tasks[i]? = some task) (h : task.Shows result) :
    ∃ task', d'.tasks[i]? = some task' ∧ task'.Shows result := by
  induction hreaches with
  | refl => exact ⟨task, htask, h⟩
  | step hreaches hsteps ih =>
      obtain ⟨move, hstep⟩ := hsteps
      obtain ⟨between, hbetween, hshows⟩ := ih
      obtain ⟨task', htask', hevolves⟩ := evolves_of_step hstep hbetween
      have hcall := (hsound.of_reaches hreaches).calls between (List.mem_of_getElem? hbetween)
      exact ⟨task', htask', hevolves.shows hcall.coheres hshows⟩

end Daemon

namespace Serving

variable {serving : Serving} {host : Host} {c c' : Custody} {task : Task}
  {result : Except BindError Endpoint}

/-- The call of a service binds between two moments, with a result. -/
structure Binds (serving : Serving) (host : Host) (result : Except BindError Endpoint)
    (before after : Custody) : Prop where
  run : Custody.Runs (Happens host) (serving.started host) before
  binding : ∃ task, before.daemon.tasks = [task] ∧ task.stage = .binding
  result : (bindTransport before.host serving.config.transport).result = result
  step : before.step (.advance 0) = some after

/-- On the way to where a service is, its call has bound, with a result. -/
def HasBound (serving : Serving) (host : Host) (result : Except BindError Endpoint) (c : Custody) :
    Prop :=
  ∃ before after, serving.Binds host result before after ∧ Custody.Runs (Happens host) after c

theorem sound_of_runs {allowed : Custody → Daemon.Move → Custody → Prop}
    (hrun : Custody.Runs allowed (serving.started host) c) : c.Sound :=
  ⟨(sound_daemon serving host).of_reaches (Custody.reaches_of_runs hrun),
    (accounted_started serving host).of_runs hrun,
    Custody.ClosesBehind.of_runs (by
      rintro task hmem endpoint hendpoint
      obtain rfl := List.mem_singleton.mp hmem
      cases hendpoint) hrun⟩

theorem undisturbed_started (serving : Serving) (host : Host) :
    (serving.started host).Undisturbed ⟨none, .binding, .absent, none, none, false⟩ :=
  ⟨rfl, rfl, rfl, rfl, by rintro ⟨⟩, by rintro ⟨⟩, by rintro ⟨⟩, fun _ => rfl⟩

theorem undisturbed_of_runs (hrun : Custody.Runs (Happens host) (serving.started host) c) :
    ∃ task, c.Undisturbed task := by
  induction hrun with
  | refl => exact ⟨_, undisturbed_started serving host⟩
  | step hrun hstep hhappens ih =>
      obtain ⟨task, hundisturbed⟩ := ih
      obtain ⟨task', hundisturbed', -⟩ :=
        hundisturbed.of_step (sound_of_runs hrun).daemon hhappens hstep
      exact ⟨task', hundisturbed'⟩

/-- The socket file of a service stands at its path, and is the only one that it has made. -/
theorem kept_of_runs (hrun : Custody.Runs (Happens host) (serving.started host) c) :
    c.Kept ∧ c.Claimed host := by
  induction hrun with
  | refl => exact ⟨by rintro file ⟨⟩, fun location id mode hentry => .inr (.inl hentry)⟩
  | step hrun hstep hhappens ih =>
      obtain ⟨hkept, hclaimed⟩ := ih
      obtain ⟨task, hundisturbed⟩ := undisturbed_of_runs hrun
      have hsound := sound_of_runs hrun
      have heffect := Custody.effect_of_step hstep
      have hconsiderate := hundisturbed.considerate hsound.daemon hhappens hstep
      refine ⟨hkept.of_effect hsound.accounted heffect hconsiderate,
        hclaimed.of_effect hkept heffect hconsiderate fun files hmove => ?_⟩
      subst hmove
      cases hhappens with
      | meddled _ hsockets => exact hsockets

theorem config_of_runs (hrun : Custody.Runs (Happens host) (serving.started host) c) :
    c.daemon.config = serving.config :=
  congrArg Prod.fst (Daemon.footing_of_reaches (Custody.reaches_of_runs hrun))

/-- The call of a service is about to bind, or has bound. -/
theorem hasBound_of_runs (hrun : Custody.Runs (Happens host) (serving.started host) c)
    (htasks : c.daemon.tasks = [task]) :
    task.stage = .binding ∨ ∃ result, serving.HasBound host result c := by
  induction hrun generalizing task with
  | refl =>
      cases htasks
      exact .inl rfl
  | @step middle last move hrun hstep hhappens ih =>
      obtain ⟨between, hundisturbed⟩ := undisturbed_of_runs hrun
      obtain hbinding | ⟨result, before, after, hbinds, hafter⟩ := ih hundisturbed.tasks
      · obtain ⟨hdaemon, -⟩ := hhappens.step hstep
        have hfound : last.daemon.tasks[0]? = some task := by
          rw [htasks]
          rfl
        have hstage := Daemon.restages_of_step hdaemon hundisturbed.found hfound
        generalize task.failure = failure at hstage
        generalize hsame : task.stage = stage at hstage
        cases hstage with
        | stays => exact .inl hbinding
        | advances hmove =>
            subst hmove
            exact .inr ⟨_, middle, last,
              ⟨hrun, ⟨between, hundisturbed.tasks, hbinding⟩, rfl, hstep⟩, .refl last⟩
        | closes hmove | returns hmove => exact absurd hmove (hhappens.spares.unfailed _)
        | cancels hmove => exact absurd hmove hhappens.spares.uncancelled
      · exact .inr ⟨result, before, after, hbinds, hafter.step hstep hhappens⟩

/-- A call that has bound shows how. -/
theorem HasBound.shows (h : serving.HasBound host result c) (htasks : c.daemon.tasks = [task]) :
    task.Shows result := by
  obtain ⟨before, after, ⟨hbefore, ⟨first, hfirst, hstage⟩, rfl, hstep⟩, hafter⟩ := h
  have hsound := (sound_of_runs hbefore).daemon
  obtain ⟨binding, hundisturbed⟩ := undisturbed_of_runs hbefore
  obtain rfl : first = binding := by simpa [hfirst] using hundisturbed.tasks
  have hcoheres := (hundisturbed.sound hsound).coheres
  rw [Task.Coheres, hstage] at hcoheres
  have hdaemon := Custody.daemon_step hstep
  obtain ⟨bound, hbound, -⟩ := Daemon.evolves_of_step hdaemon hundisturbed.found
  have hbind := hdaemon
  rw [Daemon.step, hundisturbed.found, Option.bind_some, Daemon.advanceTask, hstage] at hbind
  have hshows := Daemon.shows_of_bindTask hundisturbed.found hcoheres.1
    (Option.some.inj hbind ▸ hbound)
  rw [config_of_runs hbefore] at hshows
  obtain ⟨found, hfound, hfinally⟩ := Daemon.shows_of_reaches (Custody.reaches_of_runs hafter)
    (hsound.of_step hdaemon) hbound hshows
  rw [htasks] at hfound
  cases hfound
  exact hfinally

end Serving

end Beacon
