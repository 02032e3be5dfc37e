import Beacon.Proofs.Daemon.Watchers

/-!
# The trigger that a call returns

As long as no interrupt panics, a call gets its trigger from its watcher, which has taken it when it
was there and has told of it in the log. The stop request that stands in for a trigger of a watcher
that is lost is never what decides.
-/

namespace Beacon

namespace Daemon

variable {d d' : Daemon} {i : Nat} {task task' : Task} {move : Move} {trigger : Trigger}

/-! ## Taken triggers and the log -/

/-- A move in which no watcher wakes takes no trigger. -/
theorem Sound.taken_of_step (h : d.Sound) (hstep : d.step move = some d')
    (hwakes : ¬ d.Wakes move) : d'.taken.Perm d.taken := by
  cases progress_of_step hstep with
  | @turn j found found' phase hmove htakes =>
      have hafter : d'.tasks[j]? = some found' := by
        rw [htakes.tasks,
          List.getElem?_set_self (List.getElem?_eq_some_iff.mp htakes.found).1]
      have hsame : found'.watcher.trigger? = found.watcher.trigger? := by
        generalize hwatcher : found'.watcher = watcher
        have hheeds := heeds_of_step hstep htakes.found hafter
        rw [hwatcher] at hheeds
        cases hheeds with
        | stays => rfl
        | starts hstage =>
            have hcoheres := (h.calls found (List.mem_of_getElem? htakes.found)).coheres
            rw [Task.Coheres, hstage] at hcoheres
            rw [hcoheres.2]
            rfl
        | takes hwatch hwaiting =>
            exact absurd ⟨j, _, found, hwatch, htakes.found, hwaiting⟩ hwakes
        | warns hreported =>
            rw [hreported]
            rfl
        | hands hannounced =>
            rw [hannounced]
            rfl
        | vanishes _ hwaiting =>
            rw [hwaiting]
            rfl
      have hperm :=
        Custody.filterMap_set_perm (fun task => task.watcher.trigger?) htakes.found found'
      rw [hsame] at hperm
      rw [taken, htakes.tasks]
      exact ((List.perm_append_left_iff _).mp hperm).symm
  | begins endpoint _ htasks =>
      rw [taken, htasks, List.filterMap_append]
      exact List.Perm.of_eq (List.append_nil _)
  | interrupts _ htasks =>
      rw [taken, htasks]
      exact List.Perm.of_eq (Custody.filterMap_modify _ _ _ fun _ => rfl)
  | announces _ htasks =>
      rw [taken, htasks]
      exact List.Perm.refl _
  | stops _ htasks =>
      rw [taken, htasks]
      exact List.Perm.refl _
  | rests _ htasks =>
      rw [taken, htasks]
      exact List.Perm.refl _

/-- A watcher that wakes takes a trigger and tells of it. -/
theorem told_of_wakes (hstep : d.step move = some d') (hwakes : d.Wakes move) :
    ∃ trigger, d'.identity = d.identity ∧
      d'.shutdowns = d.shutdowns ++ [d.shuttingDownEvent trigger] ∧
        d'.taken.Perm (trigger :: d.taken) := by
  obtain ⟨j, trigger, found, rfl, hfound, hwaiting⟩ := hwakes
  rw [step, hfound, Option.bind_some, advanceWatcher, hwaiting] at hstep
  dsimp only at hstep
  split at hstep
  · cases hstep
    refine ⟨trigger, rfl, ?_, ?_⟩
    · change (d.log ++ [d.shuttingDownEvent trigger]).filter _ = _
      rw [List.filter_append]
      rfl
    · have hperm := Custody.filterMap_set_perm (fun task => task.watcher.trigger?) hfound
        { found with watcher := .reported trigger }
      rw [hwaiting] at hperm
      rw [taken, setWatcher, @tasks_updateTask (d.report _) j found hfound]
      exact hperm.symm
  · cases hstep

/-- The shutdowns in the log are the triggers that the watchers have taken, one for each. -/
def Told (d : Daemon) : Prop :=
  d.shutdowns.Perm (d.taken.map d.shuttingDownEvent)

theorem Told.of_step (h : d.Told) (hsound : d.Sound) (hstep : d.step move = some d') :
    d'.Told := by
  have hevent : d'.identity = d.identity → d'.shuttingDownEvent = d.shuttingDownEvent := by
    intro hidentity
    funext trigger
    rw [shuttingDownEvent, hidentity]
    rfl
  by_cases hwakes : d.Wakes move
  · obtain ⟨trigger, hidentity, hshutdowns, htaken⟩ := told_of_wakes hstep hwakes
    have hnew : (d.shutdowns ++ [d.shuttingDownEvent trigger]).Perm
        (d.shuttingDownEvent trigger :: d.taken.map d.shuttingDownEvent) :=
      List.perm_append_comm.trans (h.cons _)
    rw [Told, hshutdowns, hevent hidentity]
    exact hnew.trans (htaken.map d.shuttingDownEvent).symm
  · have hquiet := quiet_of_step hstep hwakes
    rw [Told, hquiet.shutdowns, hevent hquiet.identity]
    exact h.trans ((hsound.taken_of_step hstep hwakes).map d.shuttingDownEvent).symm

theorem told_of_reaches {config : Config} {identity : Identity} {sink : Sink} {host : Host}
    (hreaches : Reaches (create config identity sink host) d) : d.Told := by
  have hsound := sound_create config identity sink host
  induction hreaches with
  | refl => exact List.Perm.refl _
  | step hbefore hsteps ih =>
      obtain ⟨move, hstep⟩ := hsteps
      exact ih.of_step (hsound.of_reaches hbefore) hstep

/-- A trigger that was taken was told of. -/
theorem Told.mem_log (h : d.Told) (hmem : task ∈ d.tasks)
    (htaken : task.watcher.trigger? = some trigger) : d.shuttingDownEvent trigger ∈ d.log := by
  have htrigger : trigger ∈ d.taken := List.mem_filterMap.mpr ⟨task, hmem, htaken⟩
  have hshutdown : d.shuttingDownEvent trigger ∈ d.shutdowns :=
    h.mem_iff.mpr (List.mem_map_of_mem htrigger)
  exact List.mem_of_mem_filter hshutdown

/-! ## Calls that return -/

/-- A call that returns a trigger has it from its watcher, and nothing has broken it off. -/
theorem answer?_of_returns (hstep : d.step move = some d') (htask : d.tasks[i]? = some task)
    (hgoing : task.stage.isOver = false) (htask' : d'.tasks[i]? = some task')
    (hreturned : task'.stage = .returned (.ok trigger)) :
    task.failure = none ∧ task.watcher.answer? = some trigger := by
  have hkeeps : task'.stage = task.stage → False := by
    intro hsame
    rw [← hsame, hreturned] at hgoing
    cases hgoing
  cases evolves_of_found hstep htask htask' with
  | stays => exact (hkeeps rfl).elim
  | interrupted _ => exact (hkeeps rfl).elim
  | turns _ htakes =>
      cases htakes.turn with
      | returns _ hverdict =>
          cases hreturned
          unfold Task.verdict? at hverdict
          cases hfailure : task.failure with
          | some fault =>
              rw [hfailure] at hverdict
              cases hverdict
          | none =>
              rw [hfailure] at hverdict
              obtain ⟨answer, hanswer, hsame⟩ := Option.map_eq_some_iff.mp hverdict
              cases hsame
              exact ⟨rfl, hanswer⟩
      | proceeds hnext =>
          cases hreturned
          cases hstage : task.stage <;> rw [hstage] at hnext <;> cases hnext
      | wakes _ _ => exact (hkeeps rfl).elim
      | warns _ => exact (hkeeps rfl).elim
      | hands _ => exact (hkeeps rfl).elim
      | loses _ _ => exact (hkeeps rfl).elim
      | _ => cases hreturned

end Daemon

namespace Custody

abbrev Calm : Custody → Daemon.Move → Custody → Prop :=
  fun _ move _ => ∀ i, move ≠ .panic i

/-- Where no interrupt panics, no watcher is lost. -/
theorem watcher_ne_lost_of_runs {config : Config} {identity : Identity} {sink : Sink} {host : Host}
    {c : Custody} (hrun : Runs Calm (create config identity sink host) c) :
    ∀ task ∈ c.daemon.tasks, task.watcher ≠ .lost := by
  induction hrun with
  | refl => rintro task ⟨⟩
  | @step c' c'' move _ hstep hcalm ih =>
      intro task' hmem hlost
      obtain ⟨i, hi, htask'⟩ := List.mem_iff_getElem.mp hmem
      have hafter := List.getElem?_eq_some_iff.mpr ⟨hi, htask'⟩
      rcases Daemon.origin_of_step (daemon_step hstep) hafter with ⟨task, htask, -⟩ | ⟨_, rfl⟩
      · have hheeds := Daemon.heeds_of_step (daemon_step hstep) htask hafter
        rw [hlost] at hheeds
        generalize hwatcher : Watcher.lost = watcher at hheeds
        cases hheeds with
        | stays => exact ih task (List.mem_of_getElem? htask) hwatcher.symm
        | vanishes hmove _ => exact hcalm i hmove
        | _ => cases hwatcher
      · cases hlost

/-- A call that returns a trigger got it from its watcher: the interrupt of the call had come to it,
or it is the stop request and a stop had been requested. The log tells of it, as it tells of the
triggers of all other calls and of no other. -/
theorem returned_trigger_is_true {config : Config} {identity : Identity} {sink : Sink} {host : Host}
    {c c' : Custody} {move : Daemon.Move} {i : Nat} {task task' : Task} {trigger : Trigger}
    (hrun : Runs Calm (create config identity sink host) c) (hstep : c.step move = some c')
    (htask : c.daemon.tasks[i]? = some task) (hgoing : task.stage.isOver = false)
    (htask' : c'.daemon.tasks[i]? = some task')
    (hreturned : task'.stage = .returned (.ok trigger)) :
    task.watcher = .handed trigger ∧
      (task.interrupt = some trigger ∨
        trigger = .requested ∧ c.daemon.stopRequested = true) ∧
      c.daemon.shuttingDownEvent trigger ∈ c.daemon.log ∧
      c.daemon.shutdowns.Perm (c.daemon.taken.map c.daemon.shuttingDownEvent) := by
  have hreaches := reaches_of_runs hrun
  have hmem := List.mem_of_getElem? htask
  have hsound := (Daemon.sound_create config identity sink host).of_reaches hreaches
  have hcall := hsound.calls task hmem
  have htold := Daemon.told_of_reaches hreaches
  obtain ⟨-, hanswer⟩ :=
    Daemon.answer?_of_returns (daemon_step hstep) htask hgoing htask' hreturned
  have hhanded : task.watcher = .handed trigger := by
    cases hwatcher : task.watcher with
    | handed taken =>
        rw [hwatcher] at hanswer
        cases hanswer
        rfl
    | lost => exact absurd hwatcher (watcher_ne_lost_of_runs hrun task hmem)
    | _ =>
        rw [hwatcher] at hanswer
        cases hanswer
  have htaken : task.watcher.trigger? = some trigger := by
    rw [hhanded]
    rfl
  exact ⟨hhanded, Daemon.mem_triggers_iff.mp (hcall.trigger trigger htaken),
    htold.mem_log hmem htaken, htold⟩

/-- A daemon for the default port, on a host without files. -/
def onPort : Custody :=
  create ⟨.defaultTcp, "unknown", "unknown"⟩ .cache .logged (.idle ⟨[], []⟩ true)

/-- A call that serves the default port up to the point where it waits for a trigger. -/
def servingPort : List Daemon.Move :=
  [.bind, .announce, .serve (.tcp defaultPort), .advance 0, .advance 0, .advance 0]

/-- A call that serves until it is terminated, when it is about to return. -/
def terminated : Custody :=
  onPort.after (servingPort ++ [.interrupt 0 .terminate, .requestStop, .watch 0 .terminate,
    .watch 0 .terminate, .watch 0 .terminate, .advance 0, .advance 0, .advance 0, .advance 0,
    .advance 0])

/-- A call that is terminated returns that, although a stop is requested as well before its watcher
looks. -/
theorem terminated_returns_terminate :
    ∃ c' task', terminated.step (.advance 0) = some c' ∧ c'.daemon.tasks = [task'] ∧
      task'.stage = .returned (.ok .terminate) ∧
      terminated.daemon.stopRequested = true ∧
      terminated.daemon.shutdowns = [terminated.daemon.shuttingDownEvent .terminate] := by
  have htasks : terminated.daemon.tasks = [⟨some (.tcp defaultPort), .reported,
      .handed .terminate, some .terminate, none, false⟩] := by
    rfl
  have hstop : terminated.daemon.stopRequested = true := rfl
  have hstep : terminated.step (.advance 0) =
      some ⟨terminated.daemon.setStage 0 (.returned (.ok .terminate)), []⟩ := by
    rfl
  have hrun : Runs Calm onPort terminated := by
    refine runs_after_of onPort fun move hmem i hpanic => ?_
    subst hpanic
    simp [servingPort] at hmem
  have hafter : (terminated.daemon.setStage 0 (.returned (.ok .terminate))).tasks =
      [⟨some (.tcp defaultPort), .returned (.ok .terminate), .handed .terminate, some .terminate,
        none, false⟩] := by
    rw [Daemon.setStage, Daemon.tasks_updateTask (by rw [htasks]; rfl), htasks]
    rfl
  obtain ⟨-, -, -, htold⟩ := returned_trigger_is_true (i := 0) hrun hstep (by rw [htasks]; rfl) rfl
    (by rw [hafter]; rfl) rfl
  refine ⟨_, _, hstep, hafter, rfl, hstop, ?_⟩
  rw [Daemon.taken, htasks] at htold
  exact List.perm_singleton.mp htold

-- A call whose interrupt panics falls back on a stop request that nobody has made.
example :
    let c := onPort.after (servingPort ++ [.panic 0, .advance 0, .advance 0, .advance 0,
      .advance 0, .advance 0, .advance 0])
    c.daemon.tasks = [⟨some (.tcp defaultPort), .returned (.ok .requested), .lost, none, none,
        false⟩] ∧ c.daemon.stopRequested = false ∧ c.daemon.shutdowns = [] :=
  ⟨rfl, rfl, rfl⟩

end Custody

end Beacon
