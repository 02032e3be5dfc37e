import Beacon.Daemon.Settle
import Beacon.Proofs.Exits

/-!
# Settling

A daemon that is given time makes moves of its own: its watchers and its calls take their steps, and
a call that is to be cancelled is. The first turn brings every call into its accept loop or to its
end, and the next one brings every call to its end whose watcher has a trigger. Then no such move is
left. So a service that is given time before and after a signal, as the program runs it, ends in one
of its two ways.
-/

namespace Beacon

theorem Stage.remaining_le (stage : Stage) : stage.remaining ≤ 10 := by
  cases stage <;> first | decide | exact Nat.zero_le 10

theorem Watcher.remaining_le (watcher : Watcher) : watcher.remaining ≤ 3 := by
  cases watcher <;> simp only [remaining] <;> decide

/-! ## Moves that settle -/

/-- The moves of a call that are made when the daemon is given time. -/
inductive Daemon.Settles (d : Daemon) (i : Nat) : Daemon.Move → Prop where
  | advances : Settles d i (.advance i)
  | watches (trigger : Trigger) : Settles d i (.watch i trigger)
  | cancels {task : Task} (hfound : d.tasks[i]? = some task) (haborting : task.aborting = true) :
      Settles d i (.cancel i)

/-- A daemon after the first half of a turn, that of the watchers. -/
def Daemon.watched (d : Daemon) : Daemon :=
  (List.range d.tasks.length).foldl (runWatcher longestRun) d

namespace Custody

abbrev GivenTo (i : Nat) : Custody → Daemon.Move → Custody → Prop :=
  fun c move _ => c.daemon.Settles i move

abbrev Given : Custody → Daemon.Move → Custody → Prop :=
  fun c move _ => ∃ i, c.daemon.Settles i move

variable {c c' : Custody} {d d' : Daemon} {held : List Endpoint} {move : Daemon.Move} {i : Nat}

section Runs

variable {allowed : Custody → Daemon.Move → Custody → Prop}
  (hallowed : ∀ {c move c'}, GivenTo i c move c' → allowed c move c')
include hallowed

theorem Runs.settle (hrun : Runs allowed c ⟨d, held⟩) (hmove : d.Settles i move)
    (hstep : d.step move = some d') : Runs allowed c ⟨d', held⟩ := by
  refine hrun.step (step_of_daemon ?_ ?_ hstep) (hallowed hmove) <;> cases hmove <;> rfl

theorem runs_runWatcher (count : Nat) (hrun : Runs allowed c ⟨d, held⟩) :
    Runs allowed c ⟨Daemon.runWatcher count d i, held⟩ := by
  induction count generalizing d with
  | zero => exact hrun
  | succ count ih =>
      unfold Daemon.runWatcher
      split
      · exact hrun
      next task htask =>
        split
        · exact hrun
        next after hafter =>
          refine ih (hrun.settle hallowed (.watches (d.firstTrigger task)) ?_)
          rw [Daemon.step, htask, Option.bind_some, hafter]

theorem runs_runTask (count : Nat) (hrun : Runs allowed c ⟨d, held⟩) :
    Runs allowed c ⟨Daemon.runTask count d i, held⟩ := by
  induction count generalizing d with
  | zero => exact hrun
  | succ count ih =>
      unfold Daemon.runTask
      split
      · exact hrun
      next task htask =>
        split
        next haborting =>
          cases hcancel : d.cancelTask i task with
          | none => exact hrun
          | some after =>
              refine hrun.settle hallowed (.cancels htask haborting) ?_
              rw [Daemon.step, htask, Option.bind_some, hcancel]
              rfl
        · split
          · exact hrun
          next after hafter =>
            refine ih (hrun.settle hallowed .advances ?_)
            rw [Daemon.step, htask, Option.bind_some, hafter]

end Runs

theorem runs_foldl {run : Daemon → Nat → Daemon}
    (hruns : ∀ d i, Runs Given c ⟨d, held⟩ → Runs Given c ⟨run d i, held⟩) (indices : List Nat)
    (hrun : Runs Given c ⟨d, held⟩) : Runs Given c ⟨indices.foldl run d, held⟩ := by
  induction indices generalizing d with
  | nil => exact hrun
  | cons i indices ih => exact ih (hruns d i hrun)

theorem runs_watched (hrun : Runs Given c ⟨d, held⟩) : Runs Given c ⟨d.watched, held⟩ :=
  runs_foldl (fun _ i => runs_runWatcher (fun hgiven => ⟨i, hgiven⟩) _) _ hrun

theorem runs_turn (hrun : Runs Given c ⟨d, held⟩) : Runs Given c ⟨d.turn, held⟩ :=
  runs_foldl (fun _ i => runs_runTask (fun hgiven => ⟨i, hgiven⟩) _) _ (runs_watched hrun)

/-- Giving a daemon time is a run of its own moves. -/
theorem runs_settle (c : Custody) : Runs Given c ⟨c.daemon.settle, c.held⟩ :=
  runs_turn (runs_turn (runs_turn (.refl c)))

end Custody

/-- A daemon that has settled is one to which it can come. -/
theorem Daemon.reaches_settle (d : Daemon) : d.Reaches d.settle :=
  Custody.reaches_of_runs (Custody.runs_settle ⟨d, []⟩)

/-! ## Calls with nothing to do -/

def Task.canAdvance (task : Task) : Bool :=
  match task.stage with
  | .accepting => task.watcher.answer?.isSome
  | .reported => task.verdict?.isSome
  | .returned _ | .cancelled => false
  | _ => true

/-- A call waits: it has no step to take, and is over if it is to be cancelled. -/
structure Task.Waits (task : Task) : Prop where
  stuck : task.canAdvance = false
  cancelled : task.aborting = true → task.stage.isOver = true

theorem Task.waits_of_over {task : Task} (h : task.stage.isOver = true) : task.Waits := by
  refine ⟨?_, fun _ => h⟩
  unfold canAdvance
  cases hstage : task.stage with
  | returned _ | cancelled => rfl
  | _ =>
      rw [hstage] at h
      cases h

theorem Task.waits_of_remaining {task : Task} (h : task.stage.remaining = 0) : task.Waits :=
  waits_of_over (eq_true_of_ne_false fun hgoing =>
    Nat.ne_of_gt (Stage.remaining_pos hgoing) h)

/-- A call has come into its accept loop, or farther. -/
def Task.HasOpened (task : Task) : Prop :=
  task.stage.remaining ≤ Stage.accepting.remaining

theorem Task.Waits.hasOpened {task : Task} (h : task.Waits) : task.HasOpened := by
  have hstuck := h.stuck
  unfold canAdvance at hstuck
  unfold HasOpened
  cases hstage : task.stage with
  | accepting | reported => decide
  | returned _ | cancelled => exact Nat.zero_le _
  | _ =>
      rw [hstage] at hstuck
      cases hstuck

theorem Task.HasOpened.stage_ne {task : Task} (h : task.HasOpened) : task.stage ≠ .opening := by
  intro hstage
  rw [HasOpened, hstage] at h
  exact absurd h (by decide)

namespace Daemon

variable {d d' : Daemon} {i j : Nat} {task task' : Task} {move : Move}

theorem isSome_advanceTask (d : Daemon) (i : Nat) (task : Task) :
    (d.advanceTask i task).isSome = task.canAdvance := by
  unfold advanceTask Task.canAdvance
  cases task.stage with
  | accepting => cases task.watcher.answer? <;> rfl
  | reported => exact Option.isSome_map
  | _ => rfl

theorem isOver_of_cancelTask (h : d.cancelTask i task = none) : task.stage.isOver = true := by
  unfold cancelTask at h
  split at h
  next hover => exact hover
  · cases h

def Still (d : Daemon) (task : Task) : Prop :=
  ∀ i trigger, d.advanceWatcher i task trigger = none

/-- A watcher that cannot take the first trigger has no step to take. -/
theorem still_of_first (h : d.advanceWatcher i task (d.firstTrigger task) = none) :
    d.Still task := by
  intro j trigger
  unfold advanceWatcher at h ⊢
  cases hwatcher : task.watcher with
  | waiting =>
      rw [hwatcher] at h
      dsimp only at h ⊢
      cases htriggers : d.triggers task with
      | nil => exact if_neg List.not_mem_nil
      | cons first later =>
          rw [firstTrigger, htriggers, List.headD_cons, if_pos List.mem_cons_self] at h
          cases h
  | reported taken | announced taken =>
      rw [hwatcher] at h
      cases h
  | _ => rfl

theorem still_of_remaining (h : task.watcher.remaining = 0) : d.Still task := by
  intro i trigger
  unfold advanceWatcher
  cases hwatcher : task.watcher with
  | waiting | reported _ | announced _ =>
      rw [hwatcher] at h
      cases h
  | _ => rfl

theorem Still.of_same (h : d.Still task) (hstop : d'.stopRequested = d.stopRequested)
    (hwatcher : task'.watcher = task.watcher) (hinterrupt : task'.interrupt = task.interrupt) :
    d'.Still task' := by
  have htriggers : d'.triggers task' = d.triggers task := by
    rw [triggers, triggers, hstop, hinterrupt]
  intro i trigger
  have hnone := h i trigger
  unfold advanceWatcher at hnone ⊢
  rw [hwatcher, htriggers]
  cases hsame : task.watcher with
  | waiting =>
      rw [hsame] at hnone
      dsimp only at hnone ⊢
      split at hnone
      · cases hnone
      next hmem => exact if_neg hmem
  | reported _ | announced _ =>
      rw [hsame] at hnone
      cases hnone
  | _ => rfl

/-! ## One move that settles -/

/-- What a move that settles makes of its call, and that it changes no other. -/
structure Shifts (d : Daemon) (i : Nat) (task task' : Task) (d' : Daemon) : Prop where
  found : d.tasks[i]? = some task
  tasks : d'.tasks = d.tasks.set i task'
  stop : d'.stopRequested = d.stopRequested
  interrupt : task'.interrupt = task.interrupt
  remaining : task'.stage.remaining ≤ task.stage.remaining
  watcher : task.HasOpened → d.Still task → task'.watcher = task.watcher

theorem Takes.shifts {phase : Option Phase} (h : d.Takes i task phase task' d')
    (hremaining : task'.stage.remaining ≤ task.stage.remaining)
    (hwatcher : task.HasOpened → d.Still task → task'.watcher = task.watcher) :
    d.Shifts i task task' d' :=
  ⟨h.found, h.tasks, h.stop, h.turn.keeps.2.2, hremaining, hwatcher⟩

theorem Takes.found_after {phase : Option Phase} (h : d.Takes i task phase task' d') :
    d'.tasks[i]? = some task' := by
  rw [h.tasks, List.getElem?_set_self (List.getElem?_eq_some_iff.mp h.found).1]

theorem Settles.shifts (hmove : d.Settles i move) (hstep : d.step move = some d') :
    ∃ task task', d.Shifts i task task' d' := by
  cases hmove with
  | advances =>
      obtain ⟨task, htask, hadvance⟩ := Option.bind_eq_some_iff.mp hstep
      obtain ⟨phase, task', htakes⟩ := takes_of_advance htask hadvance
      have hadvances := advances_of_step htask hadvance htakes.found_after
      exact ⟨task, task', htakes.shifts (Nat.le_of_lt hadvances.remaining)
        fun hopened _ => hadvances.watcher hopened.stage_ne⟩
  | watches trigger =>
      obtain ⟨task, htask, hwatch⟩ := Option.bind_eq_some_iff.mp hstep
      obtain ⟨phase, task', htakes⟩ := takes_of_watch htask hwatch
      obtain ⟨hkeeps, -⟩ := watch_keeps hwatch htask htakes.found_after
      refine ⟨task, task', htakes.shifts (Nat.le_of_eq (by rw [hkeeps])) fun _ hstill => ?_⟩
      rw [hstill i trigger] at hwatch
      cases hwatch
  | cancels =>
      obtain ⟨task, htask, hcancel⟩ := Option.bind_eq_some_iff.mp hstep
      exact ⟨task, _, (takes_of_cancel htask hcancel).shifts (Nat.zero_le _) fun _ _ => rfl⟩

/-- What stays of a daemon while only one call is given time. -/
theorem keeps_of_runs {c c' : Custody} (hrun : Custody.Runs (Custody.GivenTo i) c c') :
    (∀ j, j ≠ i → c'.daemon.tasks[j]? = c.daemon.tasks[j]?) ∧
      c'.daemon.stopRequested = c.daemon.stopRequested := by
  induction hrun with
  | refl => exact ⟨fun _ _ => rfl, rfl⟩
  | step _ hstep hgiven ih =>
      obtain ⟨hothers, hstop⟩ := ih
      obtain ⟨task, task', hshifts⟩ := hgiven.shifts (Custody.daemon_step hstep)
      refine ⟨fun j hne => ?_, hshifts.stop.trans hstop⟩
      rw [hshifts.tasks, List.getElem?_set_ne hne.symm, hothers j hne]

theorem length_of_runs {c c' : Custody} (hrun : Custody.Runs Custody.Given c c') :
    c'.daemon.tasks.length = c.daemon.tasks.length := by
  induction hrun with
  | refl => rfl
  | step _ hstep hgiven ih =>
      obtain ⟨i, hmove⟩ := hgiven
      obtain ⟨task, task', hshifts⟩ := hmove.shifts (Custody.daemon_step hstep)
      rw [hshifts.tasks, List.length_set, ih]

/-- All calls have opened, and stay so. -/
theorem hasOpened_of_runs {c c' : Custody} (hrun : Custody.Runs Custody.Given c c')
    (h : ∀ task ∈ c.daemon.tasks, task.HasOpened) : ∀ task ∈ c'.daemon.tasks, task.HasOpened := by
  induction hrun with
  | refl => exact h
  | step _ hstep hgiven ih =>
      obtain ⟨i, hmove⟩ := hgiven
      obtain ⟨before, after, hshifts⟩ := hmove.shifts (Custody.daemon_step hstep)
      intro task hmem
      rw [hshifts.tasks] at hmem
      obtain hmem | rfl := List.mem_or_eq_of_mem_set hmem
      · exact ih task hmem
      · exact Nat.le_trans hshifts.remaining (ih before (List.mem_of_getElem? hshifts.found))

/-- Calls that have opened, and whose watchers have no step to take, leave it at that. -/
theorem still_of_runs {c c' : Custody} (hrun : Custody.Runs Custody.Given c c')
    (hopened : ∀ task ∈ c.daemon.tasks, task.HasOpened)
    (hstill : ∀ task ∈ c.daemon.tasks, c.daemon.Still task) :
    ∀ task ∈ c'.daemon.tasks, c'.daemon.Still task := by
  induction hrun with
  | refl => exact hstill
  | step hrun hstep hgiven ih =>
      obtain ⟨i, hmove⟩ := hgiven
      obtain ⟨before, after, hshifts⟩ := hmove.shifts (Custody.daemon_step hstep)
      have hmem := List.mem_of_getElem? hshifts.found
      intro task htask
      rw [hshifts.tasks] at htask
      obtain hother | rfl := List.mem_or_eq_of_mem_set htask
      · exact (ih task hother).of_same hshifts.stop rfl rfl
      · exact (ih before hmem).of_same hshifts.stop
          (hshifts.watcher (hasOpened_of_runs hrun hopened before hmem) (ih before hmem))
          hshifts.interrupt

/-! ## One party -/

/-- A watcher that is given enough time has no step left to take. -/
theorem still_runWatcher {count : Nat}
    (hcount : ∀ task, d.tasks[i]? = some task → task.watcher.remaining ≤ count) :
    ∀ task, (runWatcher count d i).tasks[i]? = some task → (runWatcher count d i).Still task := by
  induction count generalizing d with
  | zero => exact fun task htask => still_of_remaining (Nat.le_zero.mp (hcount task htask))
  | succ count ih =>
      unfold runWatcher
      split
      next hnone =>
        intro task htask
        cases hnone.symm.trans htask
      next task htask =>
        split
        next hstuck =>
          intro found hfound
          cases htask.symm.trans hfound
          exact still_of_first hstuck
        next after hafter =>
          refine ih fun task' htask' => ?_
          have hlt := (watch_keeps hafter htask htask').2
          have hle := hcount task htask
          omega

/-- A call that is given enough time waits. -/
theorem waits_runTask {count : Nat}
    (hcount : ∀ task, d.tasks[i]? = some task → task.stage.remaining ≤ count) :
    ∀ task, (runTask count d i).tasks[i]? = some task → task.Waits := by
  induction count generalizing d with
  | zero => exact fun task htask => Task.waits_of_remaining (Nat.le_zero.mp (hcount task htask))
  | succ count ih =>
      unfold runTask
      split
      next hnone =>
        intro task htask
        cases hnone.symm.trans htask
      next task htask =>
        split
        next haborting =>
          intro found hfound
          cases hcancel : d.cancelTask i task with
          | none =>
              rw [hcancel] at hfound
              cases htask.symm.trans hfound
              exact Task.waits_of_over (isOver_of_cancelTask hcancel)
          | some after =>
              rw [hcancel] at hfound
              cases (takes_of_cancel htask hcancel).found_after.symm.trans hfound
              exact Task.waits_of_over rfl
        next hkept =>
          split
          next hstuck =>
            intro found hfound
            cases htask.symm.trans hfound
            refine ⟨?_, fun haborting => absurd haborting hkept⟩
            rw [← d.isSome_advanceTask i task, hstuck]
            rfl
          next after hafter =>
            refine ih fun task' htask' => ?_
            have hlt := (advances_of_step htask hafter htask').remaining
            have hle := hcount task htask
            omega

/-! ## A turn -/

/-- What each party brings about for itself, and none spoils for another, holds for all of those
that had their turn. -/
theorem foldl_each {run : Daemon → Nat → Daemon} {P : Daemon → Nat → Prop}
    (hmakes : ∀ d i, P (run d i) i) (hkeeps : ∀ d i j, j ≠ i → P d j → P (run d i) j)
    (indices : List Nat) (d : Daemon) : ∀ i ∈ indices, P (indices.foldl run d) i := by
  have hlater : ∀ (indices : List Nat) (d : Daemon) (i : Nat), P d i →
      P (indices.foldl run d) i := by
    intro indices
    induction indices with
    | nil => exact fun _ _ h => h
    | cons j indices ih =>
        intro d i h
        refine ih (run d j) i ?_
        by_cases hsame : i = j
        · exact hsame ▸ hmakes d j
        · exact hkeeps d j i hsame h
  induction indices generalizing d with
  | nil => exact fun i hmem => absurd hmem List.not_mem_nil
  | cons j indices ih =>
      intro i hmem
      obtain rfl | hmem := List.mem_cons.mp hmem
      · exact hlater indices _ _ (hmakes d i)
      · exact ih (run d j) i hmem

theorem keeps_runWatcher (count : Nat) (d : Daemon) (i : Nat) :
    (∀ j, j ≠ i → (runWatcher count d i).tasks[j]? = d.tasks[j]?) ∧
      (runWatcher count d i).stopRequested = d.stopRequested :=
  keeps_of_runs (Custody.runs_runWatcher id count (.refl ⟨d, []⟩))

theorem keeps_runTask (count : Nat) (d : Daemon) (i : Nat) :
    (∀ j, j ≠ i → (runTask count d i).tasks[j]? = d.tasks[j]?) ∧
      (runTask count d i).stopRequested = d.stopRequested :=
  keeps_of_runs (Custody.runs_runTask id count (.refl ⟨d, []⟩))

/-- After the turn of the watchers none of them has a step to take. -/
theorem still_watched (d : Daemon) : ∀ task ∈ d.watched.tasks, d.watched.Still task := by
  have hlength := length_of_runs (Custody.runs_watched (.refl ⟨d, []⟩))
  intro task hmem
  obtain ⟨i, hlt, htask⟩ := List.mem_iff_getElem.mp hmem
  refine foldl_each (P := fun d i => ∀ task, d.tasks[i]? = some task → d.Still task)
    (fun d i => still_runWatcher fun task _ => ?_) (fun d i j hne hstill task htask => ?_)
    _ d i (List.mem_range.mpr (hlength ▸ hlt)) task (List.getElem?_eq_some_iff.mpr ⟨hlt, htask⟩)
  · exact Nat.le_trans task.watcher.remaining_le (by decide)
  · obtain ⟨hothers, hstop⟩ := keeps_runWatcher longestRun d i
    rw [hothers j hne] at htask
    exact (hstill task htask).of_same hstop rfl rfl

/-- After a turn every call waits. -/
theorem waits_turn (d : Daemon) : ∀ task ∈ d.turn.tasks, task.Waits := by
  have hlength := length_of_runs (Custody.runs_turn (.refl ⟨d, []⟩))
  intro task hmem
  obtain ⟨i, hlt, htask⟩ := List.mem_iff_getElem.mp hmem
  refine foldl_each (P := fun d i => ∀ task, d.tasks[i]? = some task → task.Waits)
    (fun d i => waits_runTask fun task _ => ?_) (fun d i j hne hwaits task htask => ?_)
    _ d.watched i (List.mem_range.mpr (hlength ▸ hlt)) task
    (List.getElem?_eq_some_iff.mpr ⟨hlt, htask⟩)
  · exact Nat.le_trans task.stage.remaining_le (by decide)
  · rw [(keeps_runTask longestRun d i).1 j hne] at htask
    exact hwaits task htask

/-- After a turn of calls that have opened no watcher has a step to take. -/
theorem still_turn (h : ∀ task ∈ d.tasks, task.HasOpened) :
    ∀ task ∈ d.turn.tasks, d.turn.Still task := by
  have hopened := hasOpened_of_runs (Custody.runs_watched (.refl ⟨d, []⟩)) h
  have hrun : Custody.Runs Custody.Given ⟨d.watched, []⟩ ⟨d.turn, []⟩ :=
    Custody.runs_foldl (fun _ i => Custody.runs_runTask (fun hgiven => ⟨i, hgiven⟩) _) _ (.refl _)
  exact still_of_runs hrun hopened d.still_watched

/-- A daemon that has settled has no move left of those that settle it. -/
theorem step_settle_eq_none (hmove : d.settle.Settles i move) : d.settle.step move = none := by
  have hwaits : ∀ task ∈ d.settle.tasks, task.Waits := waits_turn d.turn.turn
  have hstill : ∀ task ∈ d.settle.tasks, d.settle.Still task :=
    still_turn fun task hmem => (waits_turn d.turn task hmem).hasOpened
  cases hmove with
  | advances =>
      refine Option.bind_eq_none_iff.mpr fun task htask => ?_
      have hstuck := (hwaits task (List.mem_of_getElem? htask)).stuck
      rw [← d.settle.isSome_advanceTask i task] at hstuck
      exact Option.isSome_eq_false_iff.mp hstuck |> Option.isNone_iff_eq_none.mp
  | watches trigger =>
      exact Option.bind_eq_none_iff.mpr fun task htask =>
        hstill task (List.mem_of_getElem? htask) i trigger
  | @cancels task hfound haborting =>
      rw [step, hfound, Option.bind_some, cancelTask]
      exact if_pos ((hwaits task (List.mem_of_getElem? hfound)).cancelled haborting)

/-! ## What comes of no move by itself -/

theorem aborting_of_reaches (hreaches : d.Reaches d')
    (h : ∀ task ∈ d.tasks, task.aborting = false) : ∀ task ∈ d'.tasks, task.aborting = false := by
  induction hreaches with
  | refl => exact h
  | step _ hsteps ih =>
      obtain ⟨move, hstep⟩ := hsteps
      intro task' hmem
      obtain ⟨i, hlt, htask'⟩ := List.mem_iff_getElem.mp hmem
      obtain ⟨task, htask, hevolves⟩ | ⟨endpoint, rfl⟩ :=
        origin_of_step hstep (List.getElem?_eq_some_iff.mpr ⟨hlt, htask'⟩)
      · have hbefore := ih task (List.mem_of_getElem? htask)
        cases hevolves with
        | stays | interrupted _ => exact hbefore
        | turns _ htakes => cases htakes.turn <;> exact hbefore
      · rfl

theorem interrupt_of_reaches (hreaches : d.Reaches d') (htask : d.tasks[i]? = some task)
    (h : task.interrupt.isSome) : ∃ task', d'.tasks[i]? = some task' ∧ task'.interrupt.isSome := by
  induction hreaches with
  | refl => exact ⟨task, htask, h⟩
  | step _ hsteps ih =>
      obtain ⟨move, hstep⟩ := hsteps
      obtain ⟨before, hbefore, hcome⟩ := ih
      obtain ⟨after, hafter, hevolves⟩ := evolves_of_step hstep hbefore
      exact ⟨after, hafter, hevolves.interrupt_isSome hcome⟩

end Daemon

/-! ## Services that settle -/

namespace Serving

variable {serving : Serving} {host : Host} {c c' : Custody} {trigger : Trigger}

/-- A service that is given time is left to itself. -/
theorem runs_of_given (hrun : Custody.Runs (Happens host) (serving.started host) c)
    (hgiven : Custody.Runs Custody.Given c c') :
    Custody.Runs (Happens host) (serving.started host) c' := by
  induction hgiven with
  | refl => exact hrun
  | step _ hstep hgiven ih =>
      obtain ⟨i, hmove⟩ := hgiven
      obtain ⟨task, hundisturbed⟩ := undisturbed_of_runs ih
      obtain ⟨found, after, hshifts⟩ := hmove.shifts (Custody.daemon_step hstep)
      have hfound := hshifts.found
      rw [hundisturbed.tasks] at hfound
      obtain rfl := Nat.lt_one_iff.mp (List.getElem?_eq_some_iff.mp hfound).1
      refine ih.step hstep ?_
      cases hmove with
      | advances => exact .advances
      | watches => exact .watches
      | cancels hfound haborting =>
          have hkept := Daemon.aborting_of_reaches (Custody.reaches_of_runs ih)
            (by rintro task hmem; cases List.mem_singleton.mp hmem; rfl) _
            (List.mem_of_getElem? hfound)
          rw [haborting] at hkept
          cases hkept

/-- A service ends upon a signal once it is given time, and in one of the two ways. -/
theorem ends_of_signal {d : Daemon}
    (hrun : Custody.Runs (Happens host) (serving.started host) ⟨d, []⟩)
    (hsignal : trigger ≠ .requested) :
    ∃ outcome, serving.outcome? (d.interrupt 0 trigger).settle = some outcome ∧
      serving.Exit host ⟨(d.interrupt 0 trigger).settle, []⟩ outcome := by
  have hstep : d.step (.interrupt 0 trigger) = some (d.interrupt 0 trigger) := rfl
  generalize d.interrupt 0 trigger = told at hstep
  have htold : Custody.Runs (Happens host) (serving.started host) ⟨told, []⟩ :=
    hrun.step (Custody.step_of_daemon rfl rfl hstep) (.signalled hsignal)
  have hsettled : Custody.Runs (Happens host) (serving.started host) ⟨told.settle, []⟩ :=
    runs_of_given htold (Custody.runs_settle ⟨told, []⟩)
  obtain ⟨first, hfirst⟩ := undisturbed_of_runs htold
  obtain ⟨task, hundisturbed⟩ := undisturbed_of_runs hsettled
  obtain ⟨found, hfound, hcome⟩ := Daemon.interrupt_of_reaches told.reaches_settle hfirst.found
    (Daemon.interrupt_isSome_of_step hstep hfirst.found)
  cases hundisturbed.found.symm.trans hfound
  obtain ⟨taken, htaken⟩ := Option.isSome_iff_exists.mp hcome
  have hover : task.stage.isOver = true := by
    refine eq_true_of_ne_false fun hgoing => ?_
    obtain ⟨move, after, hown, hmove⟩ := (sound_of_runs hsettled).daemon.own_step_of_trigger
      (Daemon.mem_triggers_iff.mpr (.inl htaken)) hfound hgoing
    have hnone : told.settle.step move = none := by
      cases move with
      | advance j => exact Daemon.step_settle_eq_none .advances
      | watch j taken => exact Daemon.step_settle_eq_none (.watches taken)
      | _ => cases hown
    cases hnone.symm.trans hmove
  cases hstage : task.stage with
  | returned result =>
      obtain ⟨outcome, houtcome⟩ := serving.exists_outcome hundisturbed.tasks hstage
      exact ⟨outcome, houtcome, exit_of_runs hsettled houtcome⟩
  | cancelled => exact absurd hstage hundisturbed.kept
  | _ =>
      rw [hstage] at hover
      cases hover

/-- A service that is given time, told to end by a signal, and given time again ends in one of the
two ways; so does one that has ended before the signal. -/
theorem ends_of_settle (serving : Serving) (host : Host) (hsignal : trigger ≠ .requested) :
    let settled := (serving.daemon host).settle
    (∀ outcome, serving.outcome? settled = some outcome →
      serving.Exit host ⟨settled, []⟩ outcome) ∧
    ∃ outcome, serving.outcome? (settled.interrupt 0 trigger).settle = some outcome ∧
      serving.Exit host ⟨(settled.interrupt 0 trigger).settle, []⟩ outcome := by
  have hsettled : Custody.Runs (Happens host) (serving.started host)
      ⟨(serving.daemon host).settle, []⟩ :=
    runs_of_given (.refl _) (Custody.runs_settle (serving.started host))
  exact ⟨fun outcome hover => exit_of_runs hsettled hover, ends_of_signal hsettled hsignal⟩

end Serving

end Beacon
