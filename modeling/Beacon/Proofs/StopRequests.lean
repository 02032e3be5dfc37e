import Beacon.Proofs.Daemon.Watchers
import Mathlib.Data.Nat.Init

/-!
# Stop requests

A stop request stays for the life of a daemon, whenever it comes. From then on each serving call
has a step that it can take until it is over, and each step brings it nearer to its end. So a call
that is given time again and again ends, and what it returns is the stop request unless something
else has ended it.
-/

namespace Beacon

/-! ## The turns that remain -/

/-- How many turns a stage is away from the end of its call. -/
def Stage.remaining : Stage → Nat
  | .binding => 10
  | .entering => 9
  | .announced => 8
  | .opening => 7
  | .accepting => 6
  | .closed => 5
  | .released => 4
  | .leaving => 3
  | .left => 2
  | .reported => 1
  | .returned _ | .cancelled => 0

/-- How many turns a watcher is away from its end. -/
def Watcher.remaining : Watcher → Nat
  | .waiting => 3
  | .reported _ => 2
  | .announced _ => 1
  | .absent | .handed _ | .lost => 0

/-- A bound of the turns that a call and its watcher still take. A turn of the call may start the
watcher, so it counts for more than all turns of a watcher. -/
def Task.remaining (task : Task) : Nat :=
  4 * task.stage.remaining + task.watcher.remaining

theorem Stage.remaining_of_next {stage stage' : Stage} {phase : Option Phase}
    (h : stage.next? = some (phase, stage')) : stage'.remaining < stage.remaining := by
  cases stage <;> cases h <;> decide

theorem Stage.remaining_pos {stage : Stage} (h : stage.isOver = false) : 0 < stage.remaining := by
  cases stage <;> first | decide | cases h

/-- Every turn brings a call nearer to its end. -/
theorem Task.remaining_of_turn {d : Daemon} {task task' : Task} {phase : Option Phase}
    (h : task.Turn d phase task') : task'.remaining < task.remaining := by
  have hstages : ∀ {before after : Stage}, task.stage = before →
      after.remaining < before.remaining →
      4 * after.remaining + task.watcher.remaining < task.remaining := by
    intro before after hbefore hlt
    rw [Task.remaining, hbefore]
    omega
  have hwatchers : ∀ {before after : Watcher}, task.watcher = before →
      after.remaining < before.remaining →
      4 * task.stage.remaining + after.remaining < task.remaining := by
    intro before after hbefore hlt
    rw [Task.remaining, hbefore]
    omega
  cases h with
  | proceeds hnext => exact hstages rfl (Stage.remaining_of_next hnext)
  | binds hstage => exact hstages hstage (Nat.lt_add_one 9)
  | refused hstage => exact hstages hstage (Nat.succ_pos 9)
  | opens hstage =>
      change 4 * 6 + 3 < task.remaining
      rw [Task.remaining, hstage]
      exact Nat.lt_add_right _ (by decide)
  | closes hstage => exact hstages hstage (Nat.lt_add_one 5)
  | breaks hstage => exact hstages hstage (Nat.lt_add_one 5)
  | releases hstage => exact hstages hstage (Nat.lt_add_one 4)
  | returns hstage => exact hstages hstage (Nat.lt_add_one 0)
  | wakes hwatcher => exact hwatchers hwatcher (Nat.lt_add_one 2)
  | warns hwatcher => exact hwatchers hwatcher (Nat.lt_add_one 1)
  | hands hwatcher => exact hwatchers hwatcher (Nat.lt_add_one 0)
  | loses hwatcher => exact hwatchers hwatcher (Nat.succ_pos 2)
  | cancels hover => exact hstages rfl (Stage.remaining_pos hover)

namespace Daemon

variable {d d' : Daemon} {i : Nat} {task task' : Task} {move : Move}

/-! ## A call with a stop request can go on -/

/-- The call whose own step a move is: that of the call, or that of its watcher. -/
def Move.own? : Move → Option Nat
  | .advance i | .watch i _ => some i
  | _ => none

theorem Move.turn?_of_own (h : move.own? = some i) : move.turn? = some i := by
  cases move <;> first | exact h | cases h

/-- A stop request stays. -/
theorem stopRequested_of_reaches (hreaches : d.Reaches d') (h : d.stopRequested = true) :
    d'.stopRequested = true := by
  induction hreaches with
  | refl => exact h
  | step _ hsteps ih =>
      obtain ⟨move, hstep⟩ := hsteps
      exact (grows_of_step hstep).stop ih

/-- A watcher that waits takes each trigger that there is. -/
theorem step_of_trigger {trigger : Trigger} (htrigger : trigger ∈ d.triggers task)
    (htask : d.tasks[i]? = some task) (hwaiting : task.watcher = .waiting) :
    ∃ d', d.step (.watch i trigger) = some d' ∧
      d'.tasks = d.tasks.set i { task with watcher := .reported trigger } := by
  refine ⟨(d.report [d.shuttingDownEvent trigger]).setWatcher i (.reported trigger), ?_, ?_⟩
  · rw [step, htask, Option.bind_some, advanceWatcher, hwaiting]
    exact if_pos htrigger
  · rw [setWatcher, @tasks_updateTask (d.report _) i task htask]
    rfl

theorem mem_triggers_of_stop (hstop : d.stopRequested = true) (task : Task) :
    .requested ∈ d.triggers task :=
  mem_triggers_iff.mpr (.inr ⟨rfl, hstop⟩)

/-- A watcher that waits takes a stop request. -/
theorem step_of_waiting (hstop : d.stopRequested = true) (htask : d.tasks[i]? = some task)
    (hwaiting : task.watcher = .waiting) :
    ∃ d', d.step (.watch i .requested) = some d' ∧
      d'.tasks = d.tasks.set i { task with watcher := .reported .requested } :=
  step_of_trigger (mem_triggers_of_stop hstop task) htask hwaiting

/-- A call that is not over can take a step of its own, if there is a trigger for its watcher. -/
theorem Sound.own_step_of_trigger (h : d.Sound) {trigger : Trigger}
    (htrigger : trigger ∈ d.triggers task) (htask : d.tasks[i]? = some task)
    (hover : task.stage.isOver = false) :
    ∃ move d', move.own? = some i ∧ d.step move = some d' := by
  have hcoheres := (h.calls task (List.mem_of_getElem? htask)).coheres
  have hadvance : (d.advanceTask i task).isSome →
      ∃ move d', move.own? = some i ∧ d.step move = some d' := by
    intro hsome
    obtain ⟨d', hstep⟩ := Option.isSome_iff_exists.mp hsome
    exact ⟨.advance i, d', rfl, by rw [step, htask, Option.bind_some, hstep]⟩
  have hwatch : (d.advanceWatcher i task trigger).isSome →
      ∃ move d', move.own? = some i ∧ d.step move = some d' := by
    intro hsome
    obtain ⟨d', hstep⟩ := Option.isSome_iff_exists.mp hsome
    exact ⟨.watch i trigger, d', rfl, by rw [step, htask, Option.bind_some, hstep]⟩
  unfold advanceTask at hadvance
  unfold advanceWatcher at hwatch
  unfold Task.Coheres at hcoheres
  cases hstage : task.stage with
  | accepting =>
      rw [hstage] at hadvance hcoheres
      cases hwatcher : task.watcher with
      | absent => exact absurd hwatcher hcoheres.2
      | waiting =>
          obtain ⟨d', hstep, -⟩ := step_of_trigger htrigger htask hwatcher
          exact ⟨_, d', rfl, hstep⟩
      | reported taken => exact hwatch (by rw [hwatcher]; rfl)
      | announced taken => exact hwatch (by rw [hwatcher]; rfl)
      | handed taken => exact hadvance (by rw [hwatcher]; rfl)
      | lost => exact hadvance (by rw [hwatcher]; rfl)
  | reported =>
      rw [hstage] at hadvance hcoheres
      exact hadvance (by rw [Option.isSome_map]; exact hcoheres.2)
  | returned result =>
      rw [hstage] at hover
      cases hover
  | cancelled =>
      rw [hstage] at hover
      cases hover
  | _ =>
      rw [hstage] at hadvance
      exact hadvance rfl

/-- Where a stop is requested, each call that is not over can take a step of its own. -/
theorem Sound.exists_own_step (h : d.Sound) (hstop : d.stopRequested = true)
    (htask : d.tasks[i]? = some task) (hover : task.stage.isOver = false) :
    ∃ move d', move.own? = some i ∧ d.step move = some d' :=
  h.own_step_of_trigger (mem_triggers_of_stop hstop task) htask hover

/-- A step of its own brings a call nearer to its end. -/
theorem remaining_of_own_step (hown : move.own? = some i) (hstep : d.step move = some d')
    (htask : d.tasks[i]? = some task) :
    ∃ task', d'.tasks[i]? = some task' ∧ task'.remaining < task.remaining := by
  obtain ⟨found, phase, task', htakes⟩ := takes_of_step (Move.turn?_of_own hown) hstep
  cases htask.symm.trans htakes.found
  refine ⟨task', ?_, Task.remaining_of_turn htakes.turn⟩
  rw [htakes.tasks, List.getElem?_set_self (List.getElem?_eq_some_iff.mp htask).1]

/-- Nothing takes a call farther from its end. -/
theorem Evolves.remaining_le (h : d.Evolves move d' i task task') :
    task'.remaining ≤ task.remaining := by
  cases h with
  | stays => exact Nat.le_refl _
  | turns _ htakes => exact Nat.le_of_lt (Task.remaining_of_turn htakes.turn)
  | interrupted _ => exact Nat.le_refl _

/-- A call keeps having an endpoint. -/
theorem Evolves.endpoint_isSome (h : d.Evolves move d' i task task')
    (hendpoint : task.endpoint.isSome) : task'.endpoint.isSome := by
  cases h with
  | stays => exact hendpoint
  | interrupted _ => exact hendpoint
  | turns _ htakes =>
      cases htakes.turn with
      | binds _ => rfl
      | _ => exact hendpoint

/-- The interrupt of a call does not come by itself. -/
theorem Evolves.interrupt_eq (h : d.Evolves move d' i task task')
    (hmove : ∀ trigger, move ≠ .interrupt i trigger) : task'.interrupt = task.interrupt := by
  cases h with
  | stays => rfl
  | turns _ htakes => exact htakes.turn.keeps.2.2
  | interrupted hinterrupt => exact absurd hinterrupt (hmove _)

/-- The interrupt of a call stays once it has come. -/
theorem Evolves.interrupt_isSome (h : d.Evolves move d' i task task')
    (hcome : task.interrupt.isSome) : task'.interrupt.isSome := by
  cases h with
  | stays => exact hcome
  | interrupted _ => rfl
  | turns _ htakes =>
      rw [htakes.turn.keeps.2.2]
      exact hcome

theorem interrupt_isSome_of_step {trigger : Trigger}
    (hstep : d.step (.interrupt i trigger) = some d') (htask' : d'.tasks[i]? = some task') :
    task'.interrupt.isSome := by
  cases hstep
  obtain ⟨before, -, rfl⟩ := eq_of_updateTask htask'
  rfl

/-! ## What a call returns -/

/-- What a call returns when nothing but a stop request has come to it: that, or what has broken
off its accept loop. -/
def stopResult (task : Task) : Except DaemonError Trigger :=
  match task.failure with
  | some fault => .error (.serve fault)
  | none => .ok .requested

theorem Sound.result_of_stop (h : d.Sound) (hmem : task ∈ d.tasks)
    {result : Except DaemonError Trigger} (hstage : task.stage = .returned result)
    (hendpoint : task.endpoint.isSome) (hinterrupt : task.interrupt = none) :
    result = stopResult task := by
  have hcall := h.calls task hmem
  have hcoheres := hcall.coheres
  rw [Task.Coheres, hstage] at hcoheres
  have hverdict := hcoheres.1 hendpoint
  unfold Task.verdict? at hverdict
  unfold stopResult
  cases hfailure : task.failure with
  | some fault =>
      rw [hfailure] at hverdict
      cases hverdict
      rfl
  | none =>
      cases hwatcher : task.watcher with
      | handed trigger =>
          rw [hfailure, hwatcher] at hverdict
          cases hverdict
          have htrigger := hcall.trigger trigger (by rw [hwatcher]; rfl)
          rw [mem_triggers_iff, hinterrupt] at htrigger
          obtain hcome | ⟨rfl, -⟩ := htrigger
          · cases hcome
          · rfl
      | lost =>
          rw [hfailure, hwatcher] at hverdict
          cases hverdict
          rfl
      | _ =>
          rw [hfailure, hwatcher] at hverdict
          cases hverdict

/-! ## Cancelling -/

theorem stage_setStage {stage : Stage} {after : Task}
    (h : (d.setStage i stage).tasks[i]? = some after) : after.stage = stage := by
  obtain ⟨before, -, rfl⟩ := eq_of_updateTask h
  rfl

/-- What a step of a call makes of it: it comes nearer to its end, is not cancelled, and breaks
nothing off; the watcher starts as the accept loop is entered. -/
structure Advances (task task' : Task) : Prop where
  remaining : task'.stage.remaining < task.stage.remaining
  kept : task'.stage ≠ .cancelled
  failure : task'.failure = task.failure
  watcher : task.stage ≠ .opening → task'.watcher = task.watcher

theorem advances_of_step (htask : d.tasks[i]? = some task)
    (hstep : d.advanceTask i task = some d') (hafter : d'.tasks[i]? = some task') :
    Advances task task' := by
  have hput : ∀ {d₁ : Daemon} {stage : Stage}, d' = d₁.setStage i stage → d₁.tasks = d.tasks →
      stage.remaining < task.stage.remaining → stage ≠ .cancelled → Advances task task' := by
    intro d₁ stage hsame htasks hlt hne
    rw [hsame] at hafter
    rw [eq_of_update htask htasks hafter]
    exact ⟨hlt, hne, rfl, fun _ => rfl⟩
  unfold advanceTask at hstep
  cases hstage : task.stage with
  | binding =>
      rw [hstage] at hstep
      cases hstep
      have htasks := d.bind_keeps.2.2
      unfold bindTask at hput hafter
      split at hput
      next hresult =>
        rw [hresult] at htasks hafter
        rw [eq_of_update htask htasks hafter]
        exact ⟨by rw [hstage]; exact Nat.lt_add_one 9, by rintro ⟨⟩, rfl, fun _ => rfl⟩
      next hresult =>
        rw [hresult] at htasks
        exact hput rfl htasks (by rw [hstage]; exact Nat.succ_pos 9) (by rintro ⟨⟩)
  | opening =>
      rw [hstage] at hstep
      cases hstep
      rw [(takes_openTask htask hstage).tasks,
        List.getElem?_set_self (List.getElem?_eq_some_iff.mp htask).1] at hafter
      cases hafter
      exact ⟨by rw [hstage]; exact Nat.lt_add_one 6, by rintro ⟨⟩, rfl,
        fun hne => absurd hstage hne⟩
  | accepting =>
      rw [hstage] at hstep
      dsimp only at hstep
      split at hstep
      · cases hstep
        exact hput rfl (d.tasks_closeTask task) (by rw [hstage]; decide) (by rintro ⟨⟩)
      · cases hstep
  | closed =>
      rw [hstage] at hstep
      cases hstep
      rw [Custody.releaseTask_eq_dropTask] at hput
      exact hput rfl (Custody.tasks_dropTask d task) (by rw [hstage]; decide) (by rintro ⟨⟩)
  | left =>
      rw [hstage] at hstep
      cases hstep
      exact hput rfl rfl (by rw [hstage]; decide) (by rintro ⟨⟩)
  | reported =>
      rw [hstage] at hstep
      obtain ⟨result, -, hsame⟩ := Option.map_eq_some_iff.mp hstep
      exact hput hsame.symm rfl (by rw [hstage]; exact Nat.succ_pos 0) (by rintro ⟨⟩)
  | returned result =>
      rw [hstage] at hstep
      cases hstep
  | cancelled =>
      rw [hstage] at hstep
      cases hstep
  | _ =>
      rw [hstage] at hstep
      cases hstep
      exact hput rfl (tasks_announce d _) (by rw [hstage]; decide) (by rintro ⟨⟩)

/-- A step of a watcher changes nothing else of its call, and brings it nearer to its end. -/
theorem watch_keeps {trigger : Trigger} (hstep : d.advanceWatcher i task trigger = some d')
    (htask : d.tasks[i]? = some task) (hafter : d'.tasks[i]? = some task') :
    task' = { task with watcher := task'.watcher } ∧
      task'.watcher.remaining < task.watcher.remaining := by
  have hput : ∀ {d₁ : Daemon} {watcher : Watcher}, some (d₁.setWatcher i watcher) = some d' →
      d₁.tasks = d.tasks → watcher.remaining < task.watcher.remaining →
      task' = { task with watcher := task'.watcher } ∧
        task'.watcher.remaining < task.watcher.remaining := by
    intro d₁ watcher hsame htasks hlt
    rw [← Option.some.inj hsame] at hafter
    rw [eq_of_update htask htasks hafter]
    exact ⟨rfl, hlt⟩
  unfold advanceWatcher at hstep
  split at hstep
  next hwatcher =>
    split at hstep
    · exact hput hstep rfl (by rw [hwatcher]; exact Nat.lt_add_one 2)
    · cases hstep
  next hwatcher =>
    exact hput hstep (tasks_announce d .shuttingDown) (by rw [hwatcher]; exact Nat.lt_add_one 1)
  next hwatcher => exact hput hstep rfl (by rw [hwatcher]; exact Nat.lt_add_one 0)
  · cases hstep
  · cases hstep
  · cases hstep

/-- A failure of the system closes a call or makes it return. -/
theorem stage_of_fail {fault : SystemError} (hstep : d.failTask i task fault = some d')
    (hafter : d'.tasks[i]? = some task') :
    task'.stage = .closed ∨ ∃ result, task'.stage = .returned result := by
  unfold failTask at hstep
  split at hstep
  · rw [← Option.some.inj hstep] at hafter
    exact .inr ⟨_, stage_setStage hafter⟩
  · rw [← Option.some.inj hstep] at hafter
    obtain ⟨before, -, rfl⟩ := eq_of_updateTask hafter
    exact .inl rfl
  · cases hstep

/-- What a move comes to for the stage of a call, and for what has broken off its accept loop: its
own step decides on the stage, or both stay, or the system fails it, or it is cancelled. -/
inductive Restages (move : Move) (i : Nat) (task : Task) : Stage → Option SystemError → Prop where
  | stays : Restages move i task task.stage task.failure
  | advances {stage : Stage} (hmove : move = .advance i) : Restages move i task stage task.failure
  | closes {fault : SystemError} {failure : Option SystemError} (hmove : move = .fail i fault) :
      Restages move i task .closed failure
  | returns {fault : SystemError} {result : Except DaemonError Trigger}
      {failure : Option SystemError} (hmove : move = .fail i fault) :
      Restages move i task (.returned result) failure
  | cancels (hmove : move = .cancel i) : Restages move i task .cancelled task.failure

theorem restages_of_step (hstep : d.step move = some d') (htask : d.tasks[i]? = some task)
    (htask' : d'.tasks[i]? = some task') : Restages move i task task'.stage task'.failure := by
  have htaken : ∀ {phase : Option Phase} {after : Task}, d.Takes i task phase after d' →
      task' = after := by
    intro phase after htakes
    rw [htakes.tasks, List.getElem?_set_self (List.getElem?_eq_some_iff.mp htask).1] at htask'
    exact (Option.some.inj htask').symm
  cases evolves_of_found hstep htask htask' with
  | stays | interrupted _ => exact .stays
  | turns hmove _ =>
      cases move with
      | advance j =>
          cases hmove
          obtain ⟨found, hfound, hadvance⟩ := Option.bind_eq_some_iff.mp hstep
          cases htask.symm.trans hfound
          rw [(advances_of_step htask hadvance htask').failure]
          exact .advances rfl
      | watch j trigger =>
          cases hmove
          obtain ⟨found, hfound, hwatch⟩ := Option.bind_eq_some_iff.mp hstep
          cases htask.symm.trans hfound
          rw [(watch_keeps hwatch htask htask').1]
          exact .stays
      | fail j fault =>
          cases hmove
          obtain ⟨found, hfound, hfail⟩ := Option.bind_eq_some_iff.mp hstep
          obtain hclosed | ⟨result, hreturned⟩ := stage_of_fail hfail htask'
          · rw [hclosed]
            exact .closes rfl
          · rw [hreturned]
            exact .returns rfl
      | panic j =>
          cases hmove
          obtain ⟨found, hfound, hpanic⟩ := Option.bind_eq_some_iff.mp hstep
          cases htask.symm.trans hfound
          rw [htaken (takes_of_panic hfound hpanic)]
          exact .stays
      | cancel j =>
          cases hmove
          obtain ⟨found, hfound, hcancel⟩ := Option.bind_eq_some_iff.mp hstep
          cases htask.symm.trans hfound
          rw [htaken (takes_of_cancel hfound hcancel)]
          exact .cancels rfl
      | _ => cases hmove

/-- Nothing but its cancelling cancels a call. -/
theorem move_of_cancelled (hstep : d.step move = some d')
    (htask : d.tasks[i]? = some task) (htask' : d'.tasks[i]? = some task')
    (hbefore : task.stage ≠ .cancelled) (hafter : task'.stage = .cancelled) :
    move = .cancel i := by
  have hstage := restages_of_step hstep htask htask'
  rw [hafter] at hstage
  generalize task'.failure = failure at hstage
  generalize hcancelled : Stage.cancelled = stage at hstage
  cases hstage with
  | stays => exact absurd hcancelled.symm hbefore
  | advances hmove =>
      subst hmove
      obtain ⟨found, hfound, hadvance⟩ := Option.bind_eq_some_iff.mp hstep
      cases htask.symm.trans hfound
      exact absurd hafter (advances_of_step htask hadvance htask').kept
  | closes | returns => cases hcancelled
  | cancels hmove => exact hmove

/-- Nothing but its own step lets a call enter with an endpoint. -/
theorem move_of_entering (hstep : d.step move = some d')
    (htask : d.tasks[i]? = some task) (htask' : d'.tasks[i]? = some task')
    (hbefore : task.stage ≠ .entering) (hafter : task'.stage = .entering) :
    move = .advance i := by
  have hstage := restages_of_step hstep htask htask'
  rw [hafter] at hstage
  generalize task'.failure = failure at hstage
  generalize hentering : Stage.entering = stage at hstage
  cases hstage with
  | stays => exact absurd hentering.symm hbefore
  | advances hmove => exact hmove
  | closes | returns | cancels => cases hentering

/-- Nothing but a failure of the system breaks off the accept loop of a call. -/
theorem failure_of_step (hstep : d.step move = some d') (htask : d.tasks[i]? = some task)
    (htask' : d'.tasks[i]? = some task') (hmove : ∀ fault, move ≠ .fail i fault) :
    task'.failure = task.failure := by
  have hstage := restages_of_step hstep htask htask'
  generalize task'.stage = stage, task'.failure = failure at hstage
  cases hstage with
  | stays | advances _ | cancels _ => rfl
  | closes hfail | returns hfail => exact absurd hfail (hmove _)

/-! ## Courses -/

/-- A course of a daemon: what it is at each moment, and the move that is made then, if one is. -/
structure Course (d : Daemon) where
  state : Nat → Daemon
  move : Nat → Option Move
  starts : state 0 = d
  follows : ∀ n, match move n with
    | some move => (state n).step move = some (state (n + 1))
    | none => state (n + 1) = state n

namespace Course

/-- A call is given time again and again: it takes a step of its own, or has none to take. A call
that leaves its accept loop waits for the connections that are still open; a connection has no steps
of its own here, so that each of them ends is part of the time that the call is given. -/
def FairTo (course : Course d) (i : Nat) : Prop :=
  ∀ n, ∃ m, n ≤ m ∧
    ((∃ move, course.move m = some move ∧ move.own? = some i) ∨
      ∀ move, move.own? = some i → (course.state m).step move = none)

variable {course : Course d}

theorem reaches (course : Course d) (n : Nat) : d.Reaches (course.state n) := by
  induction n with
  | zero =>
      rw [course.starts]
      exact .refl d
  | succ n ih =>
      have hfollows := course.follows n
      split at hfollows
      · exact ih.step ⟨_, hfollows⟩
      · exact hfollows ▸ ih

/-- What every move leaves of a call holds of it from one moment of a course on. -/
theorem keeps (course : Course d) {P : Task → Prop} {n : Nat}
    (hkeeps : ∀ k move task task', n ≤ k → course.move k = some move →
      (course.state k).step move = some (course.state (k + 1)) →
      (course.state k).tasks[i]? = some task → (course.state (k + 1)).tasks[i]? = some task' →
      P task → P task')
    (htask : (course.state n).tasks[i]? = some task) (h : P task) {m : Nat} (hle : n ≤ m) :
    ∃ task', (course.state m).tasks[i]? = some task' ∧ P task' := by
  induction m, hle using Nat.le_induction with
  | base => exact ⟨task, htask, h⟩
  | succ m hnm ih =>
      obtain ⟨before, hbefore, hholds⟩ := ih
      have hfollows := course.follows m
      split at hfollows
      next move hmove =>
        obtain ⟨after, hafter, -⟩ := evolves_of_step hfollows hbefore
        exact ⟨after, hafter, hkeeps m move before after hnm hmove hfollows hbefore hafter hholds⟩
      next =>
        rw [hfollows]
        exact ⟨before, hbefore, hholds⟩

/-- A call that nobody cancels does not come farther from its end. -/
theorem later (course : Course d) {n m : Nat} (hle : n ≤ m)
    (htask : (course.state n).tasks[i]? = some task) (hbefore : task.stage ≠ .cancelled)
    (hkept : ∀ k, n ≤ k → course.move k ≠ some (.cancel i)) :
    ∃ task', (course.state m).tasks[i]? = some task' ∧
      task'.remaining ≤ task.remaining ∧ task'.stage ≠ .cancelled := by
  refine course.keeps (fun k move before after hnk hmove hstep hfound hfound' hholds => ?_) htask
    ⟨Nat.le_refl _, hbefore⟩ hle
  have hevolves := evolves_of_found hstep hfound hfound'
  refine ⟨Nat.le_trans hevolves.remaining_le hholds.1, fun hcancelled => hkept k hnk ?_⟩
  rw [hmove, move_of_cancelled hstep hfound hfound' hholds.2 hcancelled]

/-- A call whose interrupt does not come keeps its endpoint, and has no interrupt. -/
theorem uninterrupted (course : Course d) {n m : Nat} (hle : n ≤ m)
    (htask : (course.state n).tasks[i]? = some task) (hendpoint : task.endpoint.isSome)
    (hinterrupt : task.interrupt = none)
    (hnever : ∀ k trigger, n ≤ k → course.move k ≠ some (.interrupt i trigger)) :
    ∃ task', (course.state m).tasks[i]? = some task' ∧
      task'.endpoint.isSome ∧ task'.interrupt = none := by
  refine course.keeps (fun k move before after hnk hmove hstep hfound hfound' hholds => ?_) htask
    ⟨hendpoint, hinterrupt⟩ hle
  have hevolves := evolves_of_found hstep hfound hfound'
  refine ⟨hevolves.endpoint_isSome hholds.1, ?_⟩
  rw [hevolves.interrupt_eq fun trigger hsame => hnever k trigger hnk (hmove.trans (hsame ▸ rfl))]
  exact hholds.2

/-- A call that is given time again and again comes to its end, if it has a step of its own to take
as long as it is not over, and nobody cancels it. -/
theorem returns_of_own_steps (course : Course d) (hfair : course.FairTo i) {n : Nat}
    (hsteps : ∀ k task, n ≤ k → (course.state k).tasks[i]? = some task →
      task.stage.isOver = false →
        ∃ move d', move.own? = some i ∧ (course.state k).step move = some d')
    (htask : (course.state n).tasks[i]? = some task) (hbefore : task.stage ≠ .cancelled)
    (hkept : ∀ k, n ≤ k → course.move k ≠ some (.cancel i)) :
    ∃ m task' result, n ≤ m ∧ (course.state m).tasks[i]? = some task' ∧
      task'.stage = .returned result := by
  -- By induction on the turns that remain: as long as the call is not over, it has a step to take.
  induction hremaining : task.remaining using Nat.strong_induction_on generalizing n task with
  | _ remaining ih =>
    subst hremaining
    obtain ⟨m, hnm, hgiven⟩ := hfair n
    obtain ⟨task', htask', hle, hlive⟩ := course.later hnm htask hbefore hkept
    by_cases hover : task'.stage.isOver = true
    · cases hstage : task'.stage with
      | returned result => exact ⟨m, task', result, hnm, htask', hstage⟩
      | cancelled => exact absurd hstage hlive
      | _ =>
          rw [hstage] at hover
          cases hover
    · have hgoing : task'.stage.isOver = false := Bool.eq_false_iff.mpr hover
      obtain ⟨own, d', hown, hstep⟩ := hsteps m task' hnm htask' hgoing
      obtain ⟨move, hmove, howns⟩ | hnone := hgiven
      · have hfollows := course.follows m
        rw [hmove] at hfollows
        obtain ⟨task'', htask'', hlt⟩ := remaining_of_own_step howns hfollows htask'
        have hlive' : task''.stage ≠ .cancelled := by
          intro hcancelled
          refine hkept m hnm ?_
          rw [hmove, move_of_cancelled hfollows htask' htask'' hlive hcancelled]
        have hnm' : n ≤ m + 1 := Nat.le_succ_of_le hnm
        obtain ⟨k, last, result, hmk, hlast, hreturned⟩ :=
          ih _ (Nat.lt_of_lt_of_le hlt hle)
            (fun k task hmk => hsteps k task (Nat.le_trans hnm' hmk)) htask'' hlive'
            (fun k hmk => hkept k (Nat.le_trans hnm' hmk)) rfl
        exact ⟨k, last, result, Nat.le_trans hnm' hmk, hlast, hreturned⟩
      · rw [hnone own hown] at hstep
        cases hstep

/-- A call that is given time again and again comes to its end, if a stop is requested and nobody
cancels it. -/
theorem returns (course : Course d) (hsound : d.Sound) (hstop : d.stopRequested = true)
    (hfair : course.FairTo i) {n : Nat} (htask : (course.state n).tasks[i]? = some task)
    (hbefore : task.stage ≠ .cancelled)
    (hkept : ∀ k, n ≤ k → course.move k ≠ some (.cancel i)) :
    ∃ m task' result, n ≤ m ∧ (course.state m).tasks[i]? = some task' ∧
      task'.stage = .returned result := by
  refine course.returns_of_own_steps hfair (fun k found _ hfound hgoing => ?_) htask hbefore hkept
  have hreaches := course.reaches k
  exact (hsound.of_reaches hreaches).exists_own_step (stopRequested_of_reaches hreaches hstop)
    hfound hgoing

end Course

/-! ## The stop request -/

/-- A stop request stays for the life of a daemon. From then on each call that is not over has a
step of its own, which brings it nearer to its end, and a watcher that waits takes the request. A
call that is given time again and again, and that nobody cancels, returns; one that has an endpoint
and whose interrupt never comes returns the stop request, or what has broken off its accept loop. -/
theorem stop_request_is_kept {config : Config} {identity : Identity} {sink : Sink} {host : Host}
    {d : Daemon} (hreaches : Reaches (create config identity sink host) d)
    (hrequested : d.step .requestStop = some d') :
    (∀ later, d'.Reaches later → later.stopRequested = true ∧
      ∀ i task, later.tasks[i]? = some task →
        (task.stage.isOver = false → ∃ move after, move.own? = some i ∧
          later.step move = some after ∧
          ∃ task', after.tasks[i]? = some task' ∧ task'.remaining < task.remaining) ∧
        (task.watcher = .waiting → ∃ after, later.step (.watch i .requested) = some after ∧
          after.tasks = later.tasks.set i { task with watcher := .reported .requested })) ∧
      ∀ (course : Course d') n i task, course.FairTo i →
        (course.state n).tasks[i]? = some task → task.stage ≠ .cancelled →
        (∀ k, n ≤ k → course.move k ≠ some (.cancel i)) →
        ∃ m task' result, n ≤ m ∧ (course.state m).tasks[i]? = some task' ∧
          task'.stage = .returned result ∧
          (task.endpoint.isSome → task.interrupt = none →
            (∀ k trigger, n ≤ k → course.move k ≠ some (.interrupt i trigger)) →
              result = stopResult task') := by
  have hstop : d'.stopRequested = true := by
    cases hrequested
    rfl
  have hsound : d'.Sound := (sound_create config identity sink host).of_reaches
    (hreaches.step ⟨_, hrequested⟩)
  refine ⟨fun later hlater => ?_, fun course n i task hfair htask hbefore hkept => ?_⟩
  · have hstop' := stopRequested_of_reaches hlater hstop
    refine ⟨hstop', fun i task htask => ⟨fun hover => ?_, step_of_waiting hstop' htask⟩⟩
    obtain ⟨move, after, hown, hstep⟩ :=
      (hsound.of_reaches hlater).exists_own_step hstop' htask hover
    exact ⟨move, after, hown, hstep, remaining_of_own_step hown hstep htask⟩
  · obtain ⟨m, task', result, hnm, htask', hreturned⟩ :=
      course.returns hsound hstop hfair htask hbefore hkept
    refine ⟨m, task', result, hnm, htask', hreturned, fun hendpoint hinterrupt hnever => ?_⟩
    obtain ⟨found, hfound, hendpoint', hinterrupt'⟩ :=
      course.uninterrupted hnm htask hendpoint hinterrupt hnever
    cases htask'.symm.trans hfound
    exact (hsound.of_reaches (course.reaches m)).result_of_stop (List.mem_of_getElem? htask')
      hreturned hendpoint' hinterrupt'

/-- The course of moves that are made one after the other, but for those that cannot be made;
nothing happens after them. -/
def Course.along (d : Daemon) (moves : List Move) : Course d where
  state n := d.after (moves.take n)
  move n := moves[n]?.filter fun move => ((d.after (moves.take n)).step move).isSome
  starts := rfl
  follows n := by
    cases hmove : moves[n]? with
    | none =>
        have hshort := List.getElem?_eq_none_iff.mp hmove
        rw [Option.filter_none]
        dsimp only
        rw [List.take_of_length_le hshort, List.take_of_length_le (Nat.le_succ_of_le hshort)]
    | some move =>
        have hnext : d.after (moves.take (n + 1)) =
            ((d.after (moves.take n)).step move).getD (d.after (moves.take n)) := by
          rw [List.take_add_one, hmove, after, List.foldl_append]
          rfl
        rw [hnext]
        cases hstep : (d.after (moves.take n)).step move with
        | none => simp [Option.filter, hstep]
        | some d' => simp [Option.filter, hstep]

/-- Moves of a call that is over once they are made are fair to it. -/
theorem Course.fairTo_along {moves : List Move}
    (h : ∀ move, move.own? = some i → (d.after moves).step move = none) :
    (along d moves).FairTo i := by
  intro n
  refine ⟨max n moves.length, Nat.le_max_left _ _, .inr fun move hown => ?_⟩
  change (d.after (moves.take (max n moves.length))).step move = none
  rw [List.take_of_length_le (Nat.le_max_right _ _)]
  exact h move hown

theorem Course.mem_of_along {moves : List Move} {n : Nat}
    (h : (along d moves).move n = some move) : move ∈ moves :=
  List.mem_of_getElem? (Option.filter_eq_some_iff.mp h).1

/-- A call that is over takes no step of its own once its watcher has handed its trigger over. -/
theorem step_of_over {trigger : Trigger} (htask : d.tasks[i]? = some task)
    (hover : task.stage.isOver = true) (hwatcher : task.watcher = .handed trigger)
    (hown : move.own? = some i) : d.step move = none := by
  cases move with
  | advance j =>
      cases hown
      rw [step, htask, Option.bind_some, advanceTask]
      cases hstage : task.stage <;> rw [hstage] at hover <;> first | rfl | cases hover
  | watch j taken =>
      cases hown
      rw [step, htask, Option.bind_some, advanceWatcher, hwatcher]
  | _ => cases hown

/-- A daemon on which a stop is requested before anything is bound. -/
def stoppedEarly : Daemon :=
  (create ⟨.defaultTcp, "unknown", "unknown"⟩ .cache .logged (.idle ⟨[], []⟩ true)).requestStop

/-- A call that serves the default port, and takes each step that it can. -/
def wholeCall : List Move :=
  [.bind, .announce, .serve (.tcp defaultPort), .advance 0, .advance 0, .advance 0,
    .watch 0 .requested, .watch 0 .requested, .watch 0 .requested, .advance 0, .advance 0,
    .advance 0, .advance 0, .advance 0, .advance 0]

/-- A stop request that comes before anything is bound ends the call that comes after it. -/
theorem early_stop_is_honoured :
    ∃ m task' result, ((Course.along stoppedEarly wholeCall).state m).tasks[0]? = some task' ∧
      task'.stage = .returned result ∧ result = stopResult task' := by
  have hlast : (stoppedEarly.after wholeCall).tasks =
      [⟨some (.tcp defaultPort), .returned (.ok .requested), .handed .requested, none, none,
        false⟩] := by
    rfl
  have hbegun : ((Course.along stoppedEarly wholeCall).state 3).tasks =
      [⟨some (.tcp defaultPort), .entering, .absent, none, none, false⟩] := by
    rfl
  have hfair : (Course.along stoppedEarly wholeCall).FairTo 0 :=
    Course.fairTo_along fun move hown => step_of_over (by rw [hlast]; rfl) rfl rfl hown
  have hrequested : (create ⟨.defaultTcp, "unknown", "unknown"⟩ .cache .logged
      (.idle ⟨[], []⟩ true)).step .requestStop = some stoppedEarly := rfl
  have hkept : ∀ k, 3 ≤ k →
      (Course.along stoppedEarly wholeCall).move k ≠ some (.cancel 0) := by
    intro k _ hmove
    have hmem := Course.mem_of_along hmove
    simp [wholeCall] at hmem
  have hnever : ∀ k trigger, 3 ≤ k →
      (Course.along stoppedEarly wholeCall).move k ≠ some (.interrupt 0 trigger) := by
    intro k trigger _ hmove
    have hmem := Course.mem_of_along hmove
    simp [wholeCall] at hmem
  obtain ⟨-, hreturns⟩ := stop_request_is_kept (.refl _) hrequested
  obtain ⟨m, task', result, -, htask', hreturned, hresult⟩ := hreturns _ 3 0
    ⟨some (.tcp defaultPort), .entering, .absent, none, none, false⟩ hfair
    (by rw [hbegun]; rfl) (by rintro ⟨⟩) hkept
  exact ⟨m, task', result, htask', hreturned, hresult rfl rfl hnever⟩

end Daemon

end Beacon
