import Beacon.Proofs.Daemon.Progress

/-!
# How a daemon stands behind its calls

A call that has come to a stage has announced what goes before it, and phases never move back. So
each call, and each watcher, says of the daemon how far it has come at least. The invariant ties
every announcement that is still to be made to those that were made already.
-/

namespace Beacon

/-! ## Calls and phases -/

/-- The phase to which a daemon has come at least when a call is at a stage. -/
def Stage.floor : Stage → Phase
  | .binding | .entering | .cancelled => .unstarted
  | .announced => .bound
  | .opening | .accepting | .closed | .released => .serving
  | .leaving => .shuttingDown
  | .left | .reported | .returned (.ok _) | .returned (.error (.serve _)) => .stopped
  | .returned (.error (.bind _)) | .returned (.error (.signal _)) => .unstarted

/-- The phase to which a daemon has come at least when a watcher is at a point. -/
def Watcher.floor : Watcher → Phase
  | .absent => .unstarted
  | .waiting | .reported _ | .lost => .serving
  | .announced _ | .handed _ => .shuttingDown

def Watcher.trigger? : Watcher → Option Trigger
  | .absent | .waiting | .lost => none
  | .reported trigger | .announced trigger | .handed trigger => some trigger

/-- A stage that follows by itself is at the phase that was announced, or where the call was. -/
theorem Stage.floor_of_next {stage stage' : Stage} {phase : Option Phase}
    (h : stage.next? = some (phase, stage')) : stage'.floor = phase.getD stage.floor := by
  cases stage <;> cases h <;> rfl

/-- No phase is left out on the way to the next stage. -/
theorem Stage.rank_of_next {stage stage' : Stage} {phase : Phase}
    (h : stage.next? = some (some phase, stage')) : phase.rank = stage.floor.rank + 1 := by
  cases stage <;> cases h <;> rfl

/-! ## The parts of a call agree -/

/-- The parts of a call agree with its stage: it has an endpoint from its beginning or its bind on,
a watcher from its accept loop on, and a verdict once the accept loop is over. -/
def Task.Coheres (task : Task) : Prop :=
  match task.stage with
  | .binding => task.endpoint = none ∧ task.watcher = .absent
  | .entering | .announced | .opening => task.endpoint.isSome ∧ task.watcher = .absent
  | .accepting => task.endpoint.isSome ∧ task.watcher ≠ .absent
  | .closed | .released | .leaving | .left | .reported =>
      task.endpoint.isSome ∧ task.verdict?.isSome
  | .returned result =>
      (task.endpoint.isSome → task.verdict? = some result) ∧
        (task.endpoint = none → result.toOption = none ∧ ∀ fault, result ≠ .error (.serve fault))
  | .cancelled => True

/-- What a watcher does before it is at its end changes no verdict. -/
theorem Task.verdict?_of_watcher {task : Task} {result : Except DaemonError Trigger}
    (h : task.verdict? = some result) (hwatcher : task.watcher.answer? = none)
    (watcher : Watcher) : Task.verdict? { task with watcher := watcher } = some result := by
  unfold Task.verdict? at h ⊢
  cases hfailure : task.failure with
  | some fault =>
      rw [hfailure] at h
      simpa only [hfailure] using h
  | none =>
      rw [hfailure, hwatcher] at h
      cases h

theorem Task.Coheres.of_watcher {task : Task} (h : task.Coheres) {watcher : Watcher}
    (hpresent : task.watcher ≠ .absent) (hwatcher : task.watcher.answer? = none)
    (hnew : watcher ≠ .absent) : Task.Coheres { task with watcher := watcher } := by
  have hverdict : task.verdict?.isSome →
      (Task.verdict? { task with watcher := watcher }).isSome := by
    intro hsome
    obtain ⟨result, hresult⟩ := Option.isSome_iff_exists.mp hsome
    rw [Task.verdict?_of_watcher hresult hwatcher watcher]
    rfl
  unfold Task.Coheres at h ⊢
  dsimp only at h ⊢
  split at h
  · exact absurd h.2 hpresent
  · exact absurd h.2 hpresent
  · exact absurd h.2 hpresent
  · exact absurd h.2 hpresent
  · exact ⟨h.1, hnew⟩
  · exact ⟨h.1, hverdict h.2⟩
  · exact ⟨h.1, hverdict h.2⟩
  · exact ⟨h.1, hverdict h.2⟩
  · exact ⟨h.1, hverdict h.2⟩
  · exact ⟨h.1, hverdict h.2⟩
  · exact ⟨fun hsome => Task.verdict?_of_watcher (h.1 hsome) hwatcher watcher, h.2⟩
  · trivial

/-- Every turn keeps the parts of a call in agreement. -/
theorem Task.Coheres.of_turn {d : Daemon} {task task' : Task} {phase : Option Phase}
    (h : task.Coheres) (hturn : task.Turn d phase task') : task'.Coheres := by
  cases hturn with
  | @proceeds phase stage hnext =>
      unfold Task.Coheres at h ⊢
      cases hstage : task.stage <;> rw [hstage] at hnext h <;> cases hnext <;> exact h
  | binds hstage =>
      rw [Task.Coheres, hstage] at h
      exact ⟨rfl, h.2⟩
  | refused hstage hfailure =>
      rw [Task.Coheres, hstage] at h
      refine ⟨fun hsome => ?_, fun _ => ⟨rfl, fun fault hserve => ?_⟩⟩
      · rw [h.1] at hsome
        cases hsome
      · cases hserve
        exact hfailure fault rfl
  | opens hstage =>
      rw [Task.Coheres, hstage] at h
      exact ⟨h.1, by rintro ⟨⟩⟩
  | closes hstage hwatcher =>
      rw [Task.Coheres, hstage] at h
      refine ⟨h.1, ?_⟩
      unfold Task.verdict?
      dsimp only
      rw [hwatcher]
      cases task.failure <;> rfl
  | breaks hstage =>
      rw [Task.Coheres, hstage] at h
      exact ⟨h.1, rfl⟩
  | releases hstage =>
      rw [Task.Coheres, hstage] at h
      exact h
  | returns hstage hverdict =>
      rw [Task.Coheres, hstage] at h
      refine ⟨fun _ => hverdict, fun hnone => ?_⟩
      rw [show task.endpoint = none from hnone] at h
      cases h.1
  | wakes hwatcher htrigger =>
      exact h.of_watcher (by rw [hwatcher]; rintro ⟨⟩) (by rw [hwatcher]; rfl) (by rintro ⟨⟩)
  | warns hwatcher =>
      exact h.of_watcher (by rw [hwatcher]; rintro ⟨⟩) (by rw [hwatcher]; rfl) (by rintro ⟨⟩)
  | hands hwatcher =>
      exact h.of_watcher (by rw [hwatcher]; rintro ⟨⟩) (by rw [hwatcher]; rfl) (by rintro ⟨⟩)
  | loses hwatcher hinterrupt =>
      exact h.of_watcher (by rw [hwatcher]; rintro ⟨⟩) (by rw [hwatcher]; rfl) (by rintro ⟨⟩)
  | cancels hstage => trivial

/-! ## The parts of a call and their daemon -/

/-- What a daemon says of one of its calls. -/
structure Task.Sound (d : Daemon) (task : Task) : Prop where
  coheres : task.Coheres
  stage : task.stage.floor.rank ≤ d.phase.rank
  watcher : task.watcher.floor.rank ≤ d.phase.rank
  /-- The trigger that the watcher has taken could be taken, and still can. -/
  trigger : ∀ trigger, task.watcher.trigger? = some trigger → trigger ∈ d.triggers task
  /-- The file that the call does not own any more was unlinked. -/
  unlinked : ∀ file, task.endpoint.bind Endpoint.socketFile? = some file →
    task.stage.ownsFile = false → file ∈ d.unlinked

namespace Daemon

/-- A daemon has come as far as another one, or further. -/
structure Grows (d d' : Daemon) : Prop where
  phase : d.phase.rank ≤ d'.phase.rank
  stop : d.stopRequested = true → d'.stopRequested = true
  unlinked : d.unlinked ⊆ d'.unlinked

variable {d d' : Daemon} {task : Task}

theorem mem_triggers_iff {trigger : Trigger} :
    trigger ∈ d.triggers task ↔
      task.interrupt = some trigger ∨ trigger = .requested ∧ d.stopRequested = true := by
  unfold triggers
  rw [List.mem_append, Option.mem_toList]
  split
  next hstop => simp [hstop]
  next hstop => simp [hstop]

theorem Grows.triggers (h : d.Grows d') {trigger : Trigger} (hmem : trigger ∈ d.triggers task) :
    trigger ∈ d'.triggers task := by
  rw [mem_triggers_iff] at hmem ⊢
  exact hmem.imp_right fun hrequested => ⟨hrequested.1, h.stop hrequested.2⟩

/-- The phase after an announcement is the phase that was announced, if that comes later. -/
theorem rank_of_history {phase : Option Phase} (h : d'.history = (d.announceIf phase).history) :
    d.phase.rank ≤ d'.phase.rank ∧ ∀ next, phase = some next → next.rank ≤ d'.phase.rank := by
  have hphase : d'.phase = (d.announceIf phase).phase := congrArg Prod.fst h
  cases phase with
  | none => exact ⟨Nat.le_of_eq (congrArg Phase.rank hphase.symm), by rintro next ⟨⟩⟩
  | some next =>
      have hannounce := congrArg Prod.fst (d.history_announce next)
      rw [hphase]
      change d.phase.rank ≤ (d.announce next).phase.rank ∧ _
      change (d.announce next).phase = _ at hannounce
      split at hannounce
      next hlt =>
        have hrank : next.rank = (d.announce next).phase.rank :=
          congrArg Phase.rank hannounce.symm
        exact ⟨hrank ▸ Nat.le_of_lt hlt, by rintro _ ⟨⟩; exact Nat.le_of_eq hrank⟩
      next hle =>
        have hrank : d.phase.rank = (d.announce next).phase.rank :=
          congrArg Phase.rank hannounce.symm
        exact ⟨Nat.le_of_eq hrank, by rintro _ ⟨⟩; exact hrank ▸ Nat.not_lt.mp hle⟩

theorem unlinked_subset_of_step {move : Move} (h : d.step move = some d') :
    d.unlinked ⊆ d'.unlinked := by
  have hturn : ∀ i, move.turn? = some i → d.unlinked ⊆ d'.unlinked := by
    intro i hmove
    obtain ⟨task, phase, task', htakes⟩ := takes_of_step hmove h
    rw [htakes.unlinked]
    exact List.subset_append_left _ _
  cases move with
  | advance i => exact hturn i rfl
  | watch i trigger => exact hturn i rfl
  | fail i fault => exact hturn i rfl
  | panic i => exact hturn i rfl
  | cancel i => exact hturn i rfl
  | bind =>
      cases h
      obtain ⟨count, hbegin⟩ := d.beginBind_eq
      rw [hbegin]
      exact d.bindUnannounced_keeps.2.2.1 ▸ List.Subset.refl _
  | announce =>
      obtain ⟨count, rfl⟩ := endBind_eq h
      have hkeeps : (announce { d with unannounced := count } .bound).unlinked = d.unlinked :=
        congrArg Estate.unlinked (estate_announce _ _)
      rw [hkeeps]
      exact List.Subset.refl _
  | call address limit call =>
      cases h
      rw [(d.alike_call address limit call).unlinked]
      exact List.Subset.refl _
  | drop endpoint =>
      cases h
      exact List.subset_append_left _ _
  | release endpoint =>
      cases h
      exact List.subset_append_left _ _
  | _ =>
      cases h
      exact List.Subset.refl _

/-- Whatever is done, a daemon does not go back. -/
theorem grows_of_step {move : Move} (h : d.step move = some d') : d.Grows d' := by
  have hunlinked := unlinked_subset_of_step h
  have hsame : d'.history = d.history → d.phase.rank ≤ d'.phase.rank := fun hhistory =>
    (@rank_of_history _ _ none hhistory).1
  cases progress_of_step h with
  | turn _ htakes =>
      exact ⟨(rank_of_history htakes.history).1, fun hstop => htakes.stop.trans hstop, hunlinked⟩
  | begins _ _ _ hhistory hstop => exact ⟨hsame hhistory, fun h => hstop.trans h, hunlinked⟩
  | interrupts _ _ hhistory hstop => exact ⟨hsame hhistory, fun h => hstop.trans h, hunlinked⟩
  | announces _ _ hhistory hstop =>
      exact ⟨(@rank_of_history _ _ (some .bound) hhistory).1, fun h => hstop.trans h,
        hunlinked⟩
  | stops _ _ hhistory hstop => exact ⟨hsame hhistory, fun _ => hstop, hunlinked⟩
  | rests _ _ hhistory hstop => exact ⟨hsame hhistory, fun h => hstop.trans h, hunlinked⟩

end Daemon

namespace Task

variable {d d' : Daemon} {task task' : Task} {i : Nat} {phase : Option Phase}

theorem Sound.of_grows (h : task.Sound d) (hgrows : d.Grows d') : task.Sound d' :=
  ⟨h.coheres, Nat.le_trans h.stage hgrows.phase, Nat.le_trans h.watcher hgrows.phase,
    fun trigger htaken => hgrows.triggers (h.trigger trigger htaken),
    fun file hfile howns => hgrows.unlinked (h.unlinked file hfile howns)⟩

/-- The announcement of a turn leaves no phase out. -/
theorem Sound.rank_le (h : task.Sound d) {next : Phase} (hturn : task.Turn d (some next) task') :
    next.rank ≤ d.phase.rank + 1 := by
  cases hturn with
  | proceeds hnext =>
      rw [Stage.rank_of_next hnext]
      exact Nat.succ_le_succ h.stage
  | warns hwatcher =>
      have hwatching := h.watcher
      rw [hwatcher] at hwatching
      exact Nat.succ_le_succ hwatching

/-- After a turn the daemon has come as far as the call says. -/
theorem Sound.floor_of_takes (h : task.Sound d) (htakes : d.Takes i task phase task' d') :
    task'.stage.floor.rank ≤ d'.phase.rank ∧ task'.watcher.floor.rank ≤ d'.phase.rank := by
  obtain ⟨hle, hnext⟩ := Daemon.rank_of_history htakes.history
  have hstage : task.stage.floor.rank ≤ d'.phase.rank := Nat.le_trans h.stage hle
  have hwatcher : task.watcher.floor.rank ≤ d'.phase.rank := Nat.le_trans h.watcher hle
  cases htakes.turn with
  | @proceeds phase stage hproceeds =>
      refine ⟨?_, hwatcher⟩
      change stage.floor.rank ≤ _
      rw [Stage.floor_of_next hproceeds]
      cases phase with
      | none => exact hstage
      | some next => exact hnext next rfl
  | binds _ => exact ⟨Nat.zero_le _, hwatcher⟩
  | @refused failure _ hfailure =>
      refine ⟨?_, hwatcher⟩
      cases failure with
      | serve fault => exact absurd rfl (hfailure fault)
      | _ => exact Nat.zero_le _
  | opens hopening =>
      rw [hopening] at hstage
      exact ⟨hstage, hstage⟩
  | closes haccepting =>
      rw [haccepting] at hstage
      exact ⟨hstage, hwatcher⟩
  | breaks haccepting =>
      rw [haccepting] at hstage
      exact ⟨hstage, hwatcher⟩
  | releases hclosed =>
      rw [hclosed] at hstage
      exact ⟨hstage, hwatcher⟩
  | @returns result hreported _ =>
      rw [hreported] at hstage
      refine ⟨?_, hwatcher⟩
      refine Nat.le_trans ?_ hstage
      change (Stage.returned result).floor.rank ≤ 4
      cases (Stage.returned result).floor <;> decide
  | wakes hwaiting _ =>
      rw [hwaiting] at hwatcher
      exact ⟨hstage, hwatcher⟩
  | warns _ => exact ⟨hstage, hnext _ rfl⟩
  | hands hannounced =>
      rw [hannounced] at hwatcher
      exact ⟨hstage, hwatcher⟩
  | loses hwaiting _ =>
      rw [hwaiting] at hwatcher
      exact ⟨hstage, hwatcher⟩
  | cancels _ => exact ⟨Nat.zero_le _, hwatcher⟩

/-- No turn but a bind gives a call another endpoint, and none gives it another interrupt. -/
theorem Turn.keeps (h : task.Turn d phase task') :
    (task.stage ≠ .binding → task'.endpoint = task.endpoint) ∧
      (task'.stage ≠ .entering → task'.endpoint = task.endpoint) ∧
      task'.interrupt = task.interrupt := by
  cases h with
  | binds hstage => exact ⟨fun hne => absurd hstage hne, fun hne => absurd rfl hne, rfl⟩
  | _ => exact ⟨fun _ => rfl, fun _ => rfl, rfl⟩

/-- A watcher takes nothing but a trigger that is there. -/
theorem Sound.trigger_of_turn (h : task.Sound d) (hturn : task.Turn d phase task')
    {trigger : Trigger} (htaken : task'.watcher.trigger? = some trigger) :
    trigger ∈ d.triggers task := by
  cases hturn with
  | wakes _ htrigger =>
      cases htaken
      exact htrigger
  | opens _ => cases htaken
  | warns hwatcher =>
      refine h.trigger trigger ?_
      rw [hwatcher]
      exact htaken
  | hands hwatcher =>
      refine h.trigger trigger ?_
      rw [hwatcher]
      exact htaken
  | loses _ _ => cases htaken
  | _ => exact h.trigger trigger htaken

theorem Sound.of_takes (h : task.Sound d) (htakes : d.Takes i task phase task' d') :
    task'.Sound d' := by
  obtain ⟨-, hendpoint, hinterrupt⟩ := htakes.turn.keeps
  obtain ⟨hstage, hwatcher⟩ := h.floor_of_takes htakes
  refine ⟨h.coheres.of_turn htakes.turn, hstage, hwatcher, fun trigger htaken => ?_,
    fun file hfile howns => ?_⟩
  · have htrigger := h.trigger_of_turn htakes.turn htaken
    rw [Daemon.mem_triggers_iff] at htrigger ⊢
    rwa [hinterrupt, htakes.stop]
  · have hstage' : task'.stage ≠ .entering := by
      intro hentering
      rw [hentering] at howns
      cases howns
    rw [hendpoint hstage'] at hfile
    rw [htakes.unlinked, List.mem_append]
    by_cases hbefore : task.stage.ownsFile = true
    · refine .inr ?_
      rw [howns, Task.socketFile?, if_pos hbefore, hfile]
      exact List.mem_singleton_self file
    · exact .inl (h.unlinked file hfile (Bool.eq_false_iff.mpr hbefore))

theorem Sound.of_interrupt (h : task.Sound d) (trigger : Trigger) :
    Task.Sound d { task with interrupt := some (task.interrupt.getD trigger) } := by
  refine ⟨h.coheres, h.stage, h.watcher, fun taken htaken => ?_, h.unlinked⟩
  have htrigger := h.trigger taken htaken
  rw [Daemon.mem_triggers_iff] at htrigger ⊢
  refine htrigger.imp_left fun hinterrupt => ?_
  rw [hinterrupt]
  rfl

theorem sound_of_begin (d : Daemon) (endpoint : Option Endpoint) :
    Task.Sound d
      ⟨endpoint, if endpoint.isSome then .entering else .binding, .absent, none, none, false⟩ := by
  cases endpoint with
  | none =>
      exact ⟨⟨rfl, rfl⟩, Nat.zero_le _, Nat.zero_le _, by rintro trigger ⟨⟩, by rintro file ⟨⟩⟩
  | some endpoint =>
      exact ⟨⟨rfl, rfl⟩, Nat.zero_le _, Nat.zero_le _, by rintro trigger ⟨⟩,
        by rintro file - ⟨⟩⟩

/-- A call that returns its verdict has announced the last phase. -/
theorem floor_of_verdict {result : Except DaemonError Trigger} (h : task.verdict? = some result) :
    (Stage.returned result).floor = .stopped := by
  unfold Task.verdict? at h
  split at h
  · cases h
    rfl
  · obtain ⟨trigger, -, rfl⟩ := Option.map_eq_some_iff.mp h
    rfl

/-- A call is past the announcement of the last phase, or was cancelled with an endpoint. -/
def HasLeft (task : Task) : Prop :=
  task.endpoint.isSome ∧ (task.stage.floor = .stopped ∨ task.stage = .cancelled)

theorem HasLeft.of_turn (h : task.HasLeft) (hturn : task.Turn d phase task') : task'.HasLeft := by
  obtain ⟨hendpoint, hstage⟩ := h
  have hbinding : task.stage ≠ .binding := by
    intro hbinding
    rw [hbinding] at hstage
    obtain hstage | hstage := hstage <;> cases hstage
  refine ⟨(hturn.keeps.1 hbinding).symm ▸ hendpoint, ?_⟩
  cases hturn with
  | proceeds hnext =>
      refine .inl ?_
      obtain hstage | hstage := hstage
      · cases hat : task.stage <;> rw [hat] at hnext hstage <;> cases hnext <;> cases hstage
        rfl
      · rw [hstage] at hnext
        cases hnext
  | binds hat => exact absurd hat hbinding
  | refused hat => exact absurd hat hbinding
  | opens hat =>
      rw [hat] at hstage
      obtain hstage | hstage := hstage <;> cases hstage
  | closes hat =>
      rw [hat] at hstage
      obtain hstage | hstage := hstage <;> cases hstage
  | breaks hat =>
      rw [hat] at hstage
      obtain hstage | hstage := hstage <;> cases hstage
  | releases hat =>
      rw [hat] at hstage
      obtain hstage | hstage := hstage <;> cases hstage
  | returns _ hverdict => exact .inl (floor_of_verdict hverdict)
  | wakes _ _ => exact hstage
  | warns _ => exact hstage
  | hands _ => exact hstage
  | loses _ _ => exact hstage
  | cancels _ => exact .inr rfl

/-- The turn that announces the last phase leaves. -/
theorem Sound.hasLeft_of_turn (h : task.Sound d) (hturn : task.Turn d (some .stopped) task') :
    task'.HasLeft := by
  cases hturn with
  | proceeds hnext =>
      cases hat : task.stage <;> rw [hat] at hnext <;> cases hnext
      have hcoheres := h.coheres
      rw [Task.Coheres, hat] at hcoheres
      exact ⟨hcoheres.1, .inl rfl⟩

end Task

/-! ## All calls -/

namespace Daemon

/-- What holds of a daemon at all times. -/
structure Sound (d : Daemon) : Prop where
  calls : ∀ task ∈ d.tasks, task.Sound d
  /-- Nothing but a call that leaves announces the last phase. -/
  left : d.phase = .stopped → ∃ task ∈ d.tasks, task.HasLeft
  /-- What was published are the phases up to the one to which the daemon has come. -/
  chain : .unstarted :: d.published = Phase.chain.take (d.phase.rank + 1)

variable {d d' : Daemon} {move : Move}

theorem sound_create (config : Config) (identity : Identity) (sink : Sink) (host : Host) :
    (create config identity sink host).Sound :=
  ⟨by rintro task ⟨⟩, by rintro ⟨⟩, rfl⟩

/-- What becomes of a call in a move: it stays, or takes a turn, or its interrupt comes. -/
inductive Evolves (d : Daemon) (move : Move) (d' : Daemon) (i : Nat) (task : Task) :
    Task → Prop where
  | stays : Evolves d move d' i task task
  | turns {phase : Option Phase} {task' : Task} (hmove : move.turn? = some i)
      (htakes : d.Takes i task phase task' d') : Evolves d move d' i task task'
  | interrupted {trigger : Trigger} (hmove : move = .interrupt i trigger) :
      Evolves d move d' i task { task with interrupt := some (task.interrupt.getD trigger) }

/-- Every call is still there after a move. -/
theorem evolves_of_step (h : d.step move = some d') {i : Nat} {task : Task}
    (htask : d.tasks[i]? = some task) :
    ∃ task', d'.tasks[i]? = some task' ∧ d.Evolves move d' i task task' := by
  have hlt : i < d.tasks.length := (List.getElem?_eq_some_iff.mp htask).1
  cases progress_of_step h with
  | @turn j taken taken' phase hmove htakes =>
      by_cases hsame : j = i
      · subst hsame
        cases htask.symm.trans htakes.found
        refine ⟨taken', ?_, .turns hmove htakes⟩
        rw [htakes.tasks, List.getElem?_set_self hlt]
      · refine ⟨task, ?_, .stays⟩
        rw [htakes.tasks, List.getElem?_set_ne hsame, htask]
  | begins _ _ htasks =>
      refine ⟨task, ?_, .stays⟩
      rw [htasks, List.getElem?_append_left hlt, htask]
  | @interrupts j trigger hmove htasks =>
      by_cases hsame : j = i
      · subst hsame
        refine ⟨_, ?_, .interrupted hmove⟩
        rw [htasks, List.getElem?_modify_eq, htask]
        rfl
      · refine ⟨task, ?_, .stays⟩
        rw [htasks, List.getElem?_modify_ne _ _ hsame, htask]
  | announces _ htasks => exact ⟨task, htasks ▸ htask, .stays⟩
  | stops _ htasks => exact ⟨task, htasks ▸ htask, .stays⟩
  | rests _ htasks => exact ⟨task, htasks ▸ htask, .stays⟩

theorem evolves_of_found (h : d.step move = some d') {i : Nat} {task task' : Task}
    (htask : d.tasks[i]? = some task) (htask' : d'.tasks[i]? = some task') :
    d.Evolves move d' i task task' := by
  obtain ⟨found, hfound, hevolves⟩ := evolves_of_step h htask
  cases htask'.symm.trans hfound
  exact hevolves

/-- Every call after a move was there before it, or has begun. -/
theorem origin_of_step (h : d.step move = some d') {i : Nat} {task' : Task}
    (htask' : d'.tasks[i]? = some task') :
    (∃ task, d.tasks[i]? = some task ∧ d.Evolves move d' i task task') ∨
      ∃ endpoint : Option Endpoint, task' = ⟨endpoint,
        if endpoint.isSome then .entering else .binding, .absent, none, none, false⟩ := by
  by_cases hlt : i < d.tasks.length
  · have htask := List.getElem?_eq_getElem hlt
    exact .inl ⟨_, htask, evolves_of_found h htask htask'⟩
  · have hlt' : i < d'.tasks.length := (List.getElem?_eq_some_iff.mp htask').1
    have hnone : d'.tasks.length ≠ d.tasks.length := fun hsame => hlt (hsame ▸ hlt')
    cases progress_of_step h with
    | turn _ htakes => exact absurd (by rw [htakes.tasks, List.length_set]) hnone
    | begins endpoint _ htasks =>
        rw [htasks, List.getElem?_append_right (Nat.not_lt.mp hlt)] at htask'
        exact .inr ⟨endpoint, List.mem_singleton.mp (List.mem_of_getElem? htask')⟩
    | interrupts _ htasks => exact absurd (by rw [htasks, List.length_modify]) hnone
    | announces _ htasks => exact absurd (congrArg List.length htasks) hnone
    | stops _ htasks => exact absurd (congrArg List.length htasks) hnone
    | rests _ htasks => exact absurd (congrArg List.length htasks) hnone

/-- A move publishes nothing, or the phase that follows the one to which the daemon has come. -/
theorem Sound.history_of_step (h : d.Sound) (hstep : d.step move = some d') :
    d'.history = d.history ∨
      ∃ next, next.rank = d.phase.rank + 1 ∧ d'.history = (next, d.published ++ [next]) := by
  have hannounce : ∀ next : Phase, next.rank ≤ d.phase.rank + 1 →
      d'.history = (d.announce next).history → d'.history = d.history ∨
        ∃ next, next.rank = d.phase.rank + 1 ∧ d'.history = (next, d.published ++ [next]) := by
    intro next hle hhistory
    rw [history_announce] at hhistory
    split at hhistory
    next hlt => exact .inr ⟨next, by omega, hhistory⟩
    · exact .inl hhistory
  cases progress_of_step hstep with
  | @turn i task task' phase hmove htakes =>
      cases phase with
      | none => exact .inl htakes.history
      | some next =>
          have hcall := h.calls task (List.mem_of_getElem? htakes.found)
          exact hannounce next (hcall.rank_le htakes.turn) htakes.history
  | begins _ _ _ hhistory _ => exact .inl hhistory
  | interrupts _ _ hhistory _ => exact .inl hhistory
  | announces _ _ hhistory _ => exact hannounce .bound (Nat.le_add_left 1 _) hhistory
  | stops _ _ hhistory _ => exact .inl hhistory
  | rests _ _ hhistory _ => exact .inl hhistory

/-- The last phase is announced by a call that leaves, and by nothing else. -/
theorem Sound.left_of_step (h : d.Sound) (hstep : d.step move = some d')
    (hstopped : d'.phase = .stopped) : ∃ task ∈ d'.tasks, task.HasLeft := by
  by_cases hbefore : d.phase = .stopped
  · obtain ⟨task, hmem, hleft⟩ := h.left hbefore
    obtain ⟨i, hi, htask⟩ := List.mem_iff_getElem.mp hmem
    obtain ⟨task', htask', hevolves⟩ := evolves_of_step hstep
      (List.getElem?_eq_some_iff.mpr ⟨hi, htask⟩)
    refine ⟨task', List.mem_of_getElem? htask', ?_⟩
    cases hevolves with
    | stays => exact hleft
    | turns _ htakes => exact hleft.of_turn htakes.turn
    | interrupted _ => exact hleft
  · have hnew : ∀ next, d'.history = (d.announce next).history → next = .stopped := by
      intro next hhistory
      have hphase := congrArg Prod.fst hhistory
      rw [history_announce] at hphase
      split at hphase
      · exact hphase.symm.trans hstopped
      · exact absurd (hphase.symm.trans hstopped) hbefore
    have hsame : d'.history ≠ d.history := fun hhistory =>
      hbefore ((congrArg Prod.fst hhistory).symm.trans hstopped)
    cases progress_of_step hstep with
    | @turn i task task' phase hmove htakes =>
        cases phase with
        | none => exact absurd htakes.history hsame
        | some next =>
            obtain rfl := hnew next htakes.history
            have hcall := h.calls task (List.mem_of_getElem? htakes.found)
            refine ⟨task', ?_, hcall.hasLeft_of_turn htakes.turn⟩
            rw [htakes.tasks]
            exact List.mem_set (List.getElem?_eq_some_iff.mp htakes.found).1 _
    | begins _ _ _ hhistory _ => exact absurd hhistory hsame
    | interrupts _ _ hhistory _ => exact absurd hhistory hsame
    | announces _ _ hhistory _ => cases hnew .bound hhistory
    | stops _ _ hhistory _ => exact absurd hhistory hsame
    | rests _ _ hhistory _ => exact absurd hhistory hsame

theorem Sound.calls_of_step (h : d.Sound) (hstep : d.step move = some d') :
    ∀ task ∈ d'.tasks, task.Sound d' := by
  intro task' hmem
  have hgrows := grows_of_step hstep
  obtain ⟨i, hi, htask'⟩ := List.mem_iff_getElem.mp hmem
  obtain ⟨task, htask, hevolves⟩ | ⟨endpoint, rfl⟩ :=
    origin_of_step hstep (List.getElem?_eq_some_iff.mpr ⟨hi, htask'⟩)
  · have hcall := h.calls task (List.mem_of_getElem? htask)
    cases hevolves with
    | stays => exact hcall.of_grows hgrows
    | turns _ htakes => exact hcall.of_takes htakes
    | @interrupted trigger _ => exact (hcall.of_grows hgrows).of_interrupt trigger
  · exact Task.sound_of_begin d' endpoint

theorem Sound.of_step (h : d.Sound) (hstep : d.step move = some d') : d'.Sound := by
  refine ⟨h.calls_of_step hstep, h.left_of_step hstep, ?_⟩
  obtain hsame | ⟨next, hnext, hnew⟩ := h.history_of_step hstep
  · have hphase : d'.phase = d.phase := congrArg Prod.fst hsame
    have hpublished : d'.published = d.published := congrArg Prod.snd hsame
    rw [hphase, hpublished]
    exact h.chain
  · have hphase : d'.phase = next := congrArg Prod.fst hnew
    have hpublished : d'.published = d.published ++ [next] := congrArg Prod.snd hnew
    have htake : Phase.chain.take (next.rank + 1) = Phase.chain.take next.rank ++ [next] := by
      cases next <;> rfl
    rw [hphase, hpublished, htake, hnext, ← h.chain, List.cons_append]

theorem Sound.of_reaches (h : d.Sound) (hreaches : d.Reaches d') : d'.Sound := by
  induction hreaches with
  | refl => exact h
  | step _ hsteps ih =>
      obtain ⟨move, hstep⟩ := hsteps
      exact ih.of_step hstep

end Daemon

/-! ## Runs -/

namespace Daemon

/-- What comes of moves, without those that cannot be made. -/
def after (d : Daemon) (moves : List Move) : Daemon :=
  moves.foldl (fun d move => (d.step move).getD d) d

theorem reaches_after (d : Daemon) (moves : List Move) : d.Reaches (d.after moves) := by
  have hlater : ∀ (moves : List Move) (d' : Daemon), d.Reaches d' →
      d.Reaches (d'.after moves) := by
    intro moves
    induction moves with
    | nil => exact fun d' hreaches => hreaches
    | cons move moves ih =>
        intro d' hreaches
        refine ih ((d'.step move).getD d') ?_
        cases hstep : d'.step move with
        | none => exact hreaches
        | some d'' => exact hreaches.step ⟨move, hstep⟩
  exact hlater moves d (.refl d)

end Daemon

namespace Custody

/-- Where endpoints pass from hand to hand, their daemon goes from step to step. -/
theorem reaches_of_runs {allowed : Custody → Daemon.Move → Custody → Prop} {c c' : Custody}
    (hrun : Runs allowed c c') : c.daemon.Reaches c'.daemon := by
  induction hrun with
  | refl => exact .refl _
  | @step c' c'' move _ hstep _ ih => exact ih.step ⟨move, daemon_step hstep⟩

def after (c : Custody) (moves : List Daemon.Move) : Custody :=
  moves.foldl (fun c move => (c.step move).getD c) c

theorem runs_after_of {allowed : Daemon.Move → Prop} (c : Custody) {moves : List Daemon.Move}
    (h : ∀ move ∈ moves, allowed move) :
    Runs (fun _ move _ => allowed move) c (c.after moves) := by
  have hlater : ∀ (moves : List Daemon.Move) (c' : Custody), (∀ move ∈ moves, allowed move) →
      Runs (fun _ move _ => allowed move) c c' →
        Runs (fun _ move _ => allowed move) c (c'.after moves) := by
    intro moves
    induction moves with
    | nil => exact fun c' _ hrun => hrun
    | cons move moves ih =>
        intro c' hall hrun
        refine ih ((c'.step move).getD c')
          (fun later hmem => hall later (List.mem_cons_of_mem _ hmem)) ?_
        cases hstep : c'.step move with
        | none => exact hrun
        | some c'' => exact hrun.step hstep (hall move List.mem_cons_self)
  exact hlater moves c h (.refl c)

theorem runs_after (c : Custody) (moves : List Daemon.Move) :
    Runs (fun _ _ _ => True) c (c.after moves) :=
  runs_after_of c fun _ _ => trivial

end Custody

end Beacon
