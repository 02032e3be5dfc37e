import Beacon.Proofs.Daemon.Standing

/-!
# The phases of a daemon

However bind calls and serving calls overlap, repeat, fail or are cancelled, a daemon goes through
its phases in order, one after the other, each of them once.
-/

namespace Beacon

theorem Phase.nodup_chain : Phase.chain.Nodup := by decide

theorem Phase.rank_le (phase : Phase) : phase.rank ≤ 4 := by
  cases phase <;> decide

theorem Phase.getLast?_take_chain (phase : Phase) :
    (chain.take (phase.rank + 1)).getLast? = some phase := by
  cases phase <;> rfl

namespace Daemon

variable {d d' : Daemon} {move : Move}

/-- All phases of a daemon, from the first one on. -/
def phases (d : Daemon) : List Phase :=
  .unstarted :: d.published

/-- A daemon that has come to the last phase stays there, and publishes nothing more. -/
theorem Sound.history_of_stopped (h : d.Sound) (hreaches : d.Reaches d')
    (hstopped : d.phase = .stopped) : d'.history = d.history := by
  induction hreaches with
  | refl => rfl
  | @step d' d'' hreaches hsteps ih =>
      obtain ⟨move, hstep⟩ := hsteps
      obtain hsame | ⟨next, hnext, -⟩ := (h.of_reaches hreaches).history_of_step hstep
      · exact hsame.trans ih
      · have hphase : d'.phase = .stopped := (congrArg Prod.fst ih).trans hstopped
        rw [hphase] at hnext
        exact absurd (Phase.rank_le next) (by rw [hnext]; decide)

/-! ## Bind calls -/

/-- A bind that fails, as a call, as a move and as a step of a call that binds: it publishes
nothing, and leaves nothing to be published later. -/
structure FailsQuietly (d : Daemon) (failure : BindError) : Prop where
  call : d.bind.2.history = d.history
  move : ∃ d', d.step .bind = some d' ∧ d'.history = d.history ∧ d'.unannounced = d.unannounced
  task : ∀ i task, d.tasks[i]? = some task → task.stage = .binding →
    ∃ d', d.step (.advance i) = some d' ∧ d'.history = d.history ∧
      d'.tasks = d.tasks.set i { task with stage := .returned (.error (.bind failure)) }

theorem failsQuietly_of_bind {failure : BindError} (h : d.bind.1 = .error failure) :
    d.FailsQuietly failure := by
  obtain ⟨hhistory, -, -, -⟩ := d.bindUnannounced_keeps
  obtain ⟨-, -, htasks⟩ := d.bind_keeps
  have hunannounced : d.bindUnannounced.2.unannounced = d.unannounced := by
    unfold bindUnannounced
    dsimp only
    split <;> rfl
  cases hbind : d.bindUnannounced with
  | mk result after =>
      rw [hbind] at hhistory htasks hunannounced
      cases result with
      | ok endpoint =>
          rw [bind, hbind] at h
          cases h
      | error found =>
          have hfound : found = failure := by
            rw [bind, hbind] at h
            exact Except.error.inj h
          subst hfound
          refine ⟨?_, ⟨after, ?_, hhistory, hunannounced⟩, fun i task htask hstage => ?_⟩
          · rw [bind, hbind]
            exact hhistory
          · rw [step, beginBind, hbind]
          · refine ⟨after.setStage i (.returned (.error (.bind found))), ?_, hhistory, ?_⟩
            · rw [step, htask, Option.bind_some, advanceTask, hstage]
              dsimp only
              rw [bindTask, hbind]
            · change after.tasks = d.tasks at htasks
              rw [setStage, tasks_updateTask (htasks ▸ htask), htasks]

/-! ## The history -/

/-- Whatever has happened, the phases of a daemon are the chain up to the phase to which it has
come. A step publishes nothing or the next phase of the chain; once the last phase is there nothing
changes it; and a bind that fails publishes nothing. -/
theorem phases_prefix_chain {config : Config} {identity : Identity} {sink : Sink} {host : Host}
    {d : Daemon} (hreaches : Reaches (create config identity sink host) d) :
    d.phases <+: Phase.chain ∧ d.phases.getLast? = some d.phase ∧ d.phases.Nodup ∧
      (∀ move d', d.step move = some d' →
        d'.phases = d.phases ∧ d'.phase = d.phase ∨
          d'.phases = d.phases ++ [d'.phase] ∧ d'.phase.rank = d.phase.rank + 1) ∧
      (d.phase = .stopped → ∀ d', d.Reaches d' → d'.phase = .stopped ∧ d'.phases = d.phases) ∧
      ∀ failure, d.bind.1 = .error failure → d.FailsQuietly failure := by
  have hsound : d.Sound := (sound_create config identity sink host).of_reaches hreaches
  have hchain : d.phases = Phase.chain.take (d.phase.rank + 1) := hsound.chain
  have hinitial : d.phases <+: Phase.chain := hchain ▸ List.take_prefix _ _
  refine ⟨hinitial, ?_, hinitial.sublist.nodup Phase.nodup_chain, fun move d' hstep => ?_,
    fun hstopped d' hlater => ?_, fun failure hbind => failsQuietly_of_bind hbind⟩
  · rw [hchain]
    exact d.phase.getLast?_take_chain
  · obtain hsame | ⟨next, hnext, hnew⟩ := hsound.history_of_step hstep
    · exact .inl ⟨congrArg (Phase.unstarted :: ·) (congrArg Prod.snd hsame),
        congrArg Prod.fst hsame⟩
    · obtain rfl : d'.phase = next := congrArg Prod.fst hnew
      exact .inr ⟨congrArg (Phase.unstarted :: ·) (congrArg Prod.snd hnew), hnext⟩
  · have hsame := hsound.history_of_stopped hlater hstopped
    exact ⟨(congrArg Prod.fst hsame).trans hstopped,
      congrArg (Phase.unstarted :: ·) (congrArg Prod.snd hsame)⟩

/-- A call binds and serves an endpoint until a stop is requested, while a second call fails to bind
that endpoint once more. -/
def servingMoves : List Move :=
  [.bind, .announce, .serve (.tcp defaultPort), .run, .advance 1, .advance 0, .advance 0,
    .advance 0, .requestStop, .watch 0 .requested, .watch 0 .requested, .watch 0 .requested,
    .advance 0, .advance 0, .advance 0, .advance 0, .advance 0, .advance 0]

def servedTwice : Daemon :=
  (create ⟨.defaultTcp, "unknown", "unknown"⟩ .cache .logged (.idle ⟨[], []⟩ true)).after
    servingMoves

/-- A run with a bind that fails publishes the whole chain, and nothing more from then on. -/
theorem phases_servedTwice :
    servedTwice.tasks.map (·.stage.isOver) = [true, true] ∧
      servedTwice.phases = Phase.chain ∧ servedTwice.phases.Nodup ∧
      ∀ d', servedTwice.Reaches d' → d'.phases = Phase.chain := by
  have hover : servedTwice.tasks.map (·.stage.isOver) = [true, true] := by decide +kernel
  have hphases : servedTwice.phases = Phase.chain := by decide +kernel
  have hstopped : servedTwice.phase = .stopped := by decide +kernel
  obtain ⟨-, -, hnodup, -, hlast, -⟩ := phases_prefix_chain (reaches_after
    (create ⟨.defaultTcp, "unknown", "unknown"⟩ .cache .logged (.idle ⟨[], []⟩ true)) servingMoves)
  exact ⟨hover, hphases, hnodup, fun d' hlater => (hlast hstopped d' hlater).2.trans hphases⟩

end Daemon

end Beacon
