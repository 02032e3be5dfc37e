import Beacon.Proofs.Daemon.Custody
import Mathlib

/-!
# Socket files and live endpoints

Whatever binds and ends endpoints, and in whatever order, each socket file is unlinked once, when
its endpoint ends. As long as nothing else is put in its way, it stands at its path from its bind
to that moment, and nothing stands there right after it. Without that care, a bind or an end
removes the file of another live endpoint exactly if its own path leads there.
-/

namespace Beacon

namespace Custody

/-! ## One unlink for each socket file -/

/-- All socket files that were made: those that are live, and those that were unlinked. -/
def known (c : Custody) : List SocketFile :=
  c.live ++ c.daemon.unlinked

/-- Every socket file that was made is there once, and comes from a socket of its own. -/
structure Accounted (c : Custody) : Prop where
  nodup : (c.known.map SocketFile.socket).Nodup
  fresh : ∀ file ∈ c.known, file.socket < c.host.nextSocket

theorem known_perm {c c' : Custody} {files : List SocketFile}
    (hunlinked : c'.daemon.unlinked = c.daemon.unlinked) (hlive : c'.live.Perm files) :
    c'.known.Perm (files ++ c.daemon.unlinked) := by
  rw [known, hunlinked]
  exact hlive.append_right _

/-- The known socket files and the next socket after a move. -/
theorem known_of_effect {c c' : Custody} {move : Daemon.Move} (h : Effect c move c') :
    (c'.known.Perm c.known ∧ c.host.nextSocket ≤ c'.host.nextSocket) ∨
      ∃ path, c'.known.Perm (⟨c.host.nextSocket, path⟩ :: c.known) ∧
        c'.host.nextSocket = c.host.nextSocket + 1 := by
  cases h with
  | quiet _ hestate hlive =>
      exact .inl ⟨known_perm (congrArg Estate.unlinked hestate) hlive,
        Nat.le_of_eq (congrArg Estate.nextSocket hestate.symm)⟩
  | @bound path _ hresult hestate hlive =>
      exact .inr ⟨path, known_perm (congrArg Estate.unlinked hestate) hlive,
        (congrArg Estate.nextSocket hestate).trans (holds_of_bindUnix hresult).2.1⟩
  | @refused path _ _ _ hestate hlive =>
      have hsocket : c'.host.nextSocket = (bindUnix c.host path).host.nextSocket :=
        congrArg Estate.nextSocket hestate
      refine .inl ⟨known_perm (congrArg Estate.unlinked hestate) hlive, ?_⟩
      rw [hsocket]
      exact nextSocket_le_bindUnix c.host path
  | @ended file _ hestate hlive =>
      have hunlinked : c'.daemon.unlinked = c.daemon.unlinked ++ [file] :=
        congrArg Estate.unlinked hestate
      refine .inl ⟨?_, Nat.le_of_eq (congrArg Estate.nextSocket hestate.symm)⟩
      rw [known, known, hunlinked, ← List.append_assoc]
      exact List.perm_append_comm.trans (hlive.symm.append_right _)
  | meddled _ hestate hlive =>
      exact .inl ⟨known_perm (congrArg Estate.unlinked hestate) hlive,
        Nat.le_of_eq (congrArg Estate.nextSocket hestate.symm)⟩

theorem accounted_create (config : Config) (identity : Identity) (sink : Sink) (host : Host) :
    (create config identity sink host).Accounted :=
  ⟨List.nodup_nil, by rintro file ⟨⟩⟩

/-- What a move does leaves every socket file accounted for. -/
theorem Accounted.of_effect {c c' : Custody} {move : Daemon.Move} (h : c.Accounted)
    (heffect : Effect c move c') : c'.Accounted := by
  obtain ⟨hknown, hsocket⟩ | ⟨path, hknown, hsocket⟩ := known_of_effect heffect
  · refine ⟨(hknown.map _).nodup_iff.mpr h.nodup, fun file hmem => ?_⟩
    exact Nat.lt_of_lt_of_le (h.fresh file (hknown.mem_iff.mp hmem)) hsocket
  · refine ⟨(hknown.map _).nodup_iff.mpr ?_, fun file hmem => ?_⟩
    · rw [List.map_cons, List.nodup_cons]
      refine ⟨fun hmem => ?_, h.nodup⟩
      obtain ⟨file, hfile, hsame⟩ := List.mem_map.mp hmem
      exact Nat.ne_of_lt (h.fresh file hfile) hsame
    · rw [hsocket]
      obtain rfl | hold := List.mem_cons.mp (hknown.mem_iff.mp hmem)
      · exact Nat.lt_succ_self _
      · exact Nat.lt_succ_of_lt (h.fresh file hold)

variable {allowed : Custody → Daemon.Move → Custody → Prop}

theorem Accounted.of_runs {c c' : Custody} (h : c.Accounted) (hrun : Runs allowed c c') :
    c'.Accounted := by
  induction hrun with
  | refl => exact h
  | step _ hstep _ ih => exact ih.of_effect (effect_of_step hstep)

theorem mem_known_of_runs {c c' : Custody} (hrun : Runs allowed c c') {file : SocketFile}
    (h : file ∈ c.known) : file ∈ c'.known := by
  induction hrun with
  | refl => exact h
  | step _ hstep _ ih =>
      obtain ⟨hknown, -⟩ | ⟨path, hknown, -⟩ := known_of_effect (effect_of_step hstep)
      · exact hknown.mem_iff.mpr ih
      · exact hknown.mem_iff.mpr (List.mem_cons_of_mem _ ih)

/-- Only the end of an endpoint adds to what was unlinked. -/
theorem unlinked_of_effect {c c' : Custody} {move : Daemon.Move} (h : Effect c move c') :
    ∃ ended, c'.daemon.unlinked = c.daemon.unlinked ++ ended := by
  cases h with
  | quiet _ hestate _ => exact ⟨[], by simpa using! congrArg Estate.unlinked hestate⟩
  | bound _ _ hestate _ => exact ⟨[], by simpa using! congrArg Estate.unlinked hestate⟩
  | refused _ _ hestate _ => exact ⟨[], by simpa using! congrArg Estate.unlinked hestate⟩
  | meddled _ hestate _ => exact ⟨[], by simpa using! congrArg Estate.unlinked hestate⟩
  | @ended file _ hestate _ => exact ⟨[file], congrArg Estate.unlinked hestate⟩

theorem unlinked_prefix_of_runs {c c' : Custody} (hrun : Runs allowed c c') :
    c.daemon.unlinked <+: c'.daemon.unlinked := by
  induction hrun with
  | refl => exact List.prefix_rfl
  | step _ hstep _ ih =>
      obtain ⟨ended, hmore⟩ := unlinked_of_effect (effect_of_step hstep)
      rw [hmore]
      exact ih.trans (List.prefix_append _ _)

/-- A socket file that is accounted for is live and not unlinked, or unlinked once and not live. -/
theorem Accounted.fate {c : Custody} (h : c.Accounted) {file : SocketFile}
    (hmem : file ∈ c.known) :
    (file ∈ c.live ∧ c.daemon.unlinked.count file = 0) ∨
      (file ∉ c.live ∧ c.daemon.unlinked.count file = 1) := by
  have hnodup : c.known.Nodup := List.Nodup.of_map _ h.nodup
  rw [known, List.nodup_append] at hnodup
  obtain ⟨-, hunlinked, hapart⟩ := hnodup
  by_cases hlive : file ∈ c.live
  · exact .inl ⟨hlive, List.count_eq_zero.mpr fun hgone => hapart file hlive file hgone rfl⟩
  · obtain hmem | hmem := List.mem_append.mp hmem
    · exact absurd hmem hlive
    · exact .inr ⟨hlive, List.count_eq_one_of_mem hunlinked hmem⟩

/-- Along a run each socket file is unlinked once, when it stops being live. -/
theorem Accounted.count_of_runs {c c' : Custody} (h : c.Accounted) (hrun : Runs allowed c c')
    {file : SocketFile} (hmem : file ∈ c.known) :
    c'.daemon.unlinked.count file = if file ∈ c'.live then 0 else 1 := by
  obtain ⟨hlive, hcount⟩ | ⟨hlive, hcount⟩ := (h.of_runs hrun).fate (mem_known_of_runs hrun hmem)
  · rw [if_pos hlive, hcount]
  · rw [if_neg hlive, hcount]

/-! ## Socket files stand at their paths -/

/-- Each live endpoint's path holds the socket file that its bind has made. -/
def Kept (c : Custody) : Prop :=
  ∀ file ∈ c.live, c.files.Holds file.path (.socket file.socket socketMode)

end Custody

/-- A deed may put something in the way of a path. -/
def Daemon.Deed.Writes : Daemon.Deed → Prop
  | .bind _ | .meddle _ => True
  | .unlink _ => False

namespace Custody

/-- A move that puts nothing in the way of a live endpoint: what it writes touches nothing that the
path of one depends on. -/
def Considerate (c : Custody) (move : Daemon.Move) (c' : Custody) : Prop :=
  ∀ deed, c.daemon.deed? move = some deed → deed.Writes →
    ∀ file ∈ c.live, c.files.Untouched c'.files file.path

section

variable {c c' : Custody} {move : Daemon.Move}

/-- The end of one endpoint is not that of another one. -/
theorem Accounted.socket_ne_of_ended (h : c.Accounted) {gone file : SocketFile}
    (hlive : c.live.Perm (gone :: c'.live)) (hmem : file ∈ c'.live) :
    gone.socket ≠ file.socket := by
  have hnodup := h.nodup
  rw [known, List.map_append] at hnodup
  have hends := (hlive.map SocketFile.socket).nodup_iff.mp (List.nodup_append.mp hnodup).1
  rw [List.map_cons, List.nodup_cons] at hends
  intro hsame
  exact hends.1 (hsame ▸ List.mem_map_of_mem hmem)

/-- A considerate move leaves the file of each live endpoint at its path. -/
theorem Kept.of_effect (h : c.Kept) (hsound : c.Accounted) (heffect : Effect c move c')
    (hconsiderate : Considerate c move c') : c'.Kept := by
  have hwritten : ∀ deed, c.daemon.deed? move = some deed → deed.Writes → ∀ file ∈ c.live,
      c'.files.Holds file.path (.socket file.socket socketMode) := by
    intro deed hdeed hwrites file hmem
    exact (h file hmem).of_untouched (hconsiderate deed hdeed hwrites file hmem)
  intro file hmem
  cases heffect with
  | quiet _ hestate hlive =>
      have hfiles : c'.files = c.files := congrArg Estate.files hestate
      rw [hfiles]
      exact h file (hlive.mem_iff.mp hmem)
  | bound hdeed hresult hestate hlive =>
      obtain rfl | hmem := List.mem_cons.mp (hlive.mem_iff.mp hmem)
      · have hfiles : c'.files = _ := congrArg Estate.files hestate
        rw [hfiles]
        exact (holds_of_bindUnix hresult).2.2
      · exact hwritten _ hdeed trivial file hmem
  | refused hdeed _ _ hlive => exact hwritten _ hdeed trivial file (hlive.mem_iff.mp hmem)
  | @ended gone _ hestate hlive =>
      have hfiles : c'.files = (guardUnlink c.files gone.path).files :=
        congrArg Estate.files hestate
      rw [hfiles]
      exact holds_guardUnlink (h gone (hlive.mem_iff.mpr List.mem_cons_self))
        (h file (hlive.mem_iff.mpr (List.mem_cons_of_mem _ hmem)))
        (hsound.socket_ne_of_ended hlive hmem)
  | meddled hmove _ hlive =>
      subst hmove
      exact hwritten _ rfl trivial file (hlive.mem_iff.mp hmem)

theorem Kept.of_runs (h : c.Kept) (hsound : c.Accounted) (hrun : Runs Considerate c c') :
    c'.Kept := by
  induction hrun with
  | refl => exact h
  | step hrun hstep hconsiderate ih =>
      exact ih.of_effect (hsound.of_runs hrun) (effect_of_step hstep) hconsiderate

/-! ## What one move makes and removes -/

/-- A move binds an endpoint, which has the socket file. -/
def Binds (c : Custody) (move : Daemon.Move) (file : SocketFile) : Prop :=
  c.daemon.deed? move = some (.bind file.path) ∧
    ∃ endpoint, (bindUnix c.host file.path).result = .ok endpoint ∧
      endpoint.socketFile? = some file

/-- A move makes and removes the socket files of the endpoints that it binds and ends, and beside
what it writes it changes nothing else. -/
structure Tracks (c : Custody) (move : Daemon.Move) (c' : Custody) : Prop where
  /-- The endpoints that are live after the move alone are those that it has bound. -/
  binds (file : SocketFile) :
    (file ∉ c.live ∧ file ∈ c'.live) ↔ c.Binds move file
  /-- The endpoints that are live before the move alone are those that it has ended. -/
  ends (file : SocketFile) :
    (file ∈ c.live ∧ file ∉ c'.live) ↔ c.daemon.deed? move = some (.unlink file)
  /-- Nothing is left at the path of an endpoint that has ended. -/
  vacates (file : SocketFile) :
    c.daemon.deed? move = some (.unlink file) → c'.files.IsVacant file.path
  /-- What the end of an endpoint removes is the socket file that its bind has made. -/
  removes (location : Location) :
    c'.files.entryAt? location = c.files.entryAt? location ∨
      (∃ deed, c.daemon.deed? move = some deed ∧ deed.Writes) ∨
        ∃ file, c.daemon.deed? move = some (.unlink file) ∧ c.files.LeadsTo file.path location ∧
          c.files.entryAt? location = some (.socket file.socket socketMode)

theorem Accounted.binds_of_effect (h : c.Accounted) (heffect : Effect c move c')
    (file : SocketFile) :
    (file ∉ c.live ∧ file ∈ c'.live) ↔ c.Binds move file := by
  have hnone : (∀ path, c.daemon.deed? move ≠ some (.bind path)) → c'.live ⊆ c.live →
      ((file ∉ c.live ∧ file ∈ c'.live) ↔ c.Binds move file) := fun hdeed hlive =>
    iff_of_false (fun hmade => hmade.1 (hlive hmade.2)) (fun hbind => hdeed _ hbind.1)
  -- Only a bind that succeeds adds to the live files, and what it adds has a socket of its own.
  cases heffect with
  | quiet hdeed _ hlive => exact hnone (by rw [hdeed]; rintro path ⟨⟩) hlive.subset
  | meddled hmove _ hlive => exact hnone (by rw [hmove]; rintro path ⟨⟩) hlive.subset
  | ended hdeed _ hlive =>
      refine hnone (by rw [hdeed]; rintro path ⟨⟩) fun other hmem => ?_
      exact hlive.mem_iff.mpr (List.mem_cons_of_mem _ hmem)
  | refused hdeed hresult _ hlive =>
      refine iff_of_false (fun hmade => hmade.1 (hlive.mem_iff.mp hmade.2)) ?_
      rintro ⟨hbind, endpoint, hok, -⟩
      rw [hdeed] at hbind
      cases hbind
      rw [hresult] at hok
      cases hok
  | bound hdeed hresult _ hlive =>
      constructor
      · rintro ⟨hbefore, hafter⟩
        obtain rfl | hmem := List.mem_cons.mp (hlive.mem_iff.mp hafter)
        · exact ⟨hdeed, _, hresult, rfl⟩
        · exact absurd hmem hbefore
      · obtain ⟨socket, path⟩ := file
        rintro ⟨hbind, endpoint, hok, hfile⟩
        rw [hdeed] at hbind
        cases hbind
        rw [hresult] at hok
        cases hok
        cases hfile
        refine ⟨fun hmem => ?_, hlive.mem_iff.mpr List.mem_cons_self⟩
        exact Nat.lt_irrefl _ (h.fresh _ (List.mem_append_left _ hmem))

theorem Accounted.ends_of_effect (h : c.Accounted) (heffect : Effect c move c')
    (file : SocketFile) :
    (file ∈ c.live ∧ file ∉ c'.live) ↔ c.daemon.deed? move = some (.unlink file) := by
  have hnone : (∀ gone, c.daemon.deed? move ≠ some (.unlink gone)) → c.live ⊆ c'.live →
      ((file ∈ c.live ∧ file ∉ c'.live) ↔ c.daemon.deed? move = some (.unlink file)) :=
    fun hdeed hlive => iff_of_false (fun hgone => hgone.2 (hlive hgone.1)) (hdeed file)
  -- Only an end takes from the live files, and no other one has the socket of what it takes.
  cases heffect with
  | quiet hdeed _ hlive => exact hnone (by rw [hdeed]; rintro gone ⟨⟩) hlive.symm.subset
  | meddled hmove _ hlive => exact hnone (by rw [hmove]; rintro gone ⟨⟩) hlive.symm.subset
  | refused hdeed _ _ hlive => exact hnone (by rw [hdeed]; rintro gone ⟨⟩) hlive.symm.subset
  | bound hdeed _ _ hlive =>
      refine hnone (by rw [hdeed]; rintro gone ⟨⟩) fun other hmem => ?_
      exact hlive.mem_iff.mpr (List.mem_cons_of_mem _ hmem)
  | @ended gone hdeed _ hlive =>
      constructor
      · rintro ⟨hbefore, hafter⟩
        obtain rfl | hmem := List.mem_cons.mp (hlive.mem_iff.mp hbefore)
        · exact hdeed
        · exact absurd hmem hafter
      · intro hunlink
        rw [hdeed] at hunlink
        cases hunlink
        exact ⟨hlive.mem_iff.mpr List.mem_cons_self,
          fun hmem => h.socket_ne_of_ended hlive hmem rfl⟩

/-- Files change when something is written, or when an endpoint ends. -/
theorem files_of_effect (heffect : Effect c move c') :
    c'.files = c.files ∨ (∃ deed, c.daemon.deed? move = some deed ∧ deed.Writes) ∨
      ∃ file ∈ c.live, c.daemon.deed? move = some (.unlink file) := by
  cases heffect with
  | quiet _ hestate _ => exact .inl (congrArg Estate.files hestate)
  | bound hdeed => exact .inr (.inl ⟨_, hdeed, trivial⟩)
  | refused hdeed => exact .inr (.inl ⟨_, hdeed, trivial⟩)
  | meddled hmove =>
      subst hmove
      exact .inr (.inl ⟨_, rfl, trivial⟩)
  | @ended file hdeed _ hlive =>
      exact .inr (.inr ⟨file, hlive.mem_iff.mpr List.mem_cons_self, hdeed⟩)

/-- Where each live endpoint's file stands at its path, moves track endpoints. -/
theorem Kept.tracks (h : c.Kept) (hsound : c.Accounted) (heffect : Effect c move c') :
    Tracks c move c' := by
  refine ⟨hsound.binds_of_effect heffect, hsound.ends_of_effect heffect, ?_, ?_⟩
  · intro file hunlink
    rw [files_of_unlink heffect hunlink]
    exact isVacant_guardUnlink (h file ((hsound.ends_of_effect heffect file).mpr hunlink).1)
  · intro location
    obtain hfiles | hwrites | ⟨file, hmem, hunlink⟩ := files_of_effect heffect
    · exact .inl (by rw [hfiles])
    · exact .inr (.inl hwrites)
    · by_cases hleads : c.files.LeadsTo file.path location
      · obtain ⟨place, hplace, hentry⟩ := h file hmem
        obtain rfl := hleads.unique hplace
        exact .inr (.inr ⟨file, hunlink, hleads, hentry⟩)
      · rw [files_of_unlink heffect hunlink]
        exact .inl (entryAt?_guardUnlink_of_not_leadsTo hleads)

/-- An endpoint whose socket file was unlinked does not end again. -/
theorem Accounted.deed?_ne_of_unlinked (h : c.Accounted) {file : SocketFile}
    (hgone : file ∈ c.daemon.unlinked) (hstep : c.step move = some c') :
    c.daemon.deed? move ≠ some (.unlink file) := by
  intro hdeed
  obtain ⟨hlive, -⟩ := (h.ends_of_effect (effect_of_step hstep) file).mpr hdeed
  obtain ⟨-, hcount⟩ | ⟨hdead, -⟩ := h.fate (List.mem_append_left _ hlive)
  · exact List.count_eq_zero.mp hcount hgone
  · exact hdead hlive

end

/-- As long as nobody puts something in the way of a live endpoint, each live endpoint's path holds
the socket file that its bind has made, and each move tracks endpoints. From then on, whatever
happens, each socket file is unlinked once, when its endpoint ends, and not again. -/
theorem socket_files_track_endpoints {config : Config} {identity : Identity} {sink : Sink}
    {host : Host} {c : Custody}
    (hrun : Runs Considerate (create config identity sink host) c) :
    c.Kept ∧
      (∀ move c', c.step move = some c' → Tracks c move c') ∧
      ∀ (allowed : Custody → Daemon.Move → Custody → Prop) (c' : Custody), Runs allowed c c' →
        (∀ file ∈ c.known,
          c'.daemon.unlinked.count file = if file ∈ c'.live then 0 else 1) ∧
        ∀ file ∈ c.daemon.unlinked, ∀ move c'', c'.step move = some c'' →
          c'.daemon.deed? move ≠ some (.unlink file) := by
  have hcreated := accounted_create config identity sink host
  have hsound : c.Accounted := hcreated.of_runs hrun
  have hkept : c.Kept := Kept.of_runs (by rintro file ⟨⟩) hcreated hrun
  refine ⟨hkept, fun move c' hstep => hkept.tracks hsound (effect_of_step hstep), ?_⟩
  intro allowed c' hlater
  refine ⟨fun file hmem => hsound.count_of_runs hlater hmem, fun file hgone move c'' hstep => ?_⟩
  exact (hsound.of_runs hlater).deed?_ne_of_unlinked
    ((unlinked_prefix_of_runs hlater).subset hgone) hstep

/-! ## Runs of binds -/

/-- Endpoints that are bound one after the other on a host without files. -/
def boundAt (paths : List Path) : Custody :=
  paths.foldl (fun c path => (c.step (.bindAt (.unix path))).getD c)
    (create ⟨.defaultTcp, "unknown", "unknown"⟩ .cache .logged (.idle ⟨[], []⟩ true))

theorem step_boundAt (paths : List Path) (path : Path) :
    (boundAt paths).step (.bindAt (.unix path)) = some (boundAt (paths ++ [path])) := by
  rw [boundAt, boundAt, List.foldl_append]
  rfl

theorem runs_boundAt (paths : List Path) :
    Runs (fun _ _ _ => True) (boundAt []) (boundAt paths) := by
  induction paths using List.reverseRecOn with
  | nil => exact .refl _
  | append_singleton paths path ih => exact .step ih (step_boundAt paths path) trivial

theorem step_drop {c : Custody} {endpoint : Endpoint} (h : endpoint ∈ c.held) :
    c.step (.drop endpoint) =
      some ⟨(c.daemon.dropEndpoint endpoint).2, c.held.erase endpoint⟩ := by
  change (if endpoint ∈ c.held then _ else _) = _
  rw [if_pos h]
  rfl

/-- The bind at one path is considerate of an endpoint at another one. -/
theorem considerate_of_two_paths : Considerate (boundAt [[0x61]]) (.bindAt (.unix [0x62]))
    (boundAt [[0x61], [0x62]]) := by
  intro deed _ _ file hmem
  have hlive : (boundAt [[0x61]]).live = [⟨1, [0x61]⟩] := by cbv
  rw [hlive] at hmem
  obtain rfl := List.mem_singleton.mp hmem
  refine ⟨by cbv, fun directory name trail hwalk hlast location hplace => ?_⟩
  obtain rfl : [0x61] = name := Option.some.inj hlast
  have hnames : (FileSystem.names [0x61]).dropLast = [] := by decide
  rw [hnames] at hwalk
  cases hwalk
  obtain rfl := List.mem_singleton.mp hplace
  cbv

/-- Two endpoints at paths of their own: each has its socket file, and when one of them ends,
nothing is left at its path. -/
theorem two_paths_are_tracked :
    Runs Considerate (boundAt []) (boundAt [[0x61], [0x62]]) ∧
      (boundAt [[0x61], [0x62]]).live = [⟨1, [0x61]⟩, ⟨2, [0x62]⟩] ∧
      (boundAt [[0x61], [0x62]]).Kept ∧
      ∃ last, (boundAt [[0x61], [0x62]]).step (.drop (.unix 1 [0x61])) = some last ∧
        last.files.IsVacant [0x61] := by
  have hfirst : Considerate (boundAt []) (.bindAt (.unix [0x61])) (boundAt [[0x61]]) := by
    rintro deed - - file ⟨⟩
  have hrun := Runs.step (.step (.refl _) (step_boundAt [] [0x61]) hfirst)
    (step_boundAt [[0x61]] [0x62]) considerate_of_two_paths
  have hheld : (boundAt [[0x61], [0x62]]).held = [.unix 1 [0x61], .unix 2 [0x62]] := by cbv
  have hstep := step_drop (hheld ▸ List.mem_cons_self)
  obtain ⟨hkept, htracks, -⟩ := socket_files_track_endpoints hrun
  exact ⟨hrun, by cbv, hkept, _, hstep, (htracks _ _ hstep).vacates ⟨1, [0x61]⟩ rfl⟩

/-! ## Sharing of paths -/

/-- A move asks the system to unlink a path that leads to a location: that of an endpoint that is to
be bound, or that of one that ends. -/
inductive Clears (c : Custody) (move : Daemon.Move) (location : Location) : Prop where
  | bind {path : Path} (hdeed : c.daemon.deed? move = some (.bind path))
      (hleads : c.files.LeadsTo path location)
  | unlink {file : SocketFile} (hdeed : c.daemon.deed? move = some (.unlink file))
      (hleads : c.files.LeadsTo file.path location)

section

variable {c c' : Custody} {move : Daemon.Move} {location : Location}

/-- The moves of endpoints change nothing but what they ask the system to unlink. -/
theorem entryAt?_of_not_clears (heffect : Effect c move c') (hown : ∀ files, move ≠ .meddle files)
    (hclears : ¬ c.Clears move location) :
    c'.files.entryAt? location = c.files.entryAt? location := by
  have hbind : ∀ path, c.daemon.deed? move = some (.bind path) →
      c'.files.entryAt? location = c.files.entryAt? location := by
    intro path hdeed
    rw [files_of_bind heffect hdeed]
    exact entryAt?_bindUnix_of_not_leadsTo fun hleads => hclears (.bind hdeed hleads)
  have hunlink : ∀ file, c.daemon.deed? move = some (.unlink file) →
      c'.files.entryAt? location = c.files.entryAt? location := by
    intro file hdeed
    rw [files_of_unlink heffect hdeed]
    exact entryAt?_guardUnlink_of_not_leadsTo fun hleads => hclears (.unlink hdeed hleads)
  cases heffect with
  | quiet _ hestate _ => exact congrArg (·.files.entryAt? location) hestate
  | bound hdeed => exact hbind _ hdeed
  | refused hdeed => exact hbind _ hdeed
  | ended hdeed => exact hunlink _ hdeed
  | meddled hmove => exact absurd hmove (hown _)

/-- The end of an endpoint removes what its path leads to, if it is no directory. -/
theorem entryAt?_of_unlink (heffect : Effect c move c') {file : SocketFile} {entry : Entry}
    (hdeed : c.daemon.deed? move = some (.unlink file))
    (hleads : c.files.LeadsTo file.path location)
    (hentry : c.files.entryAt? location = some entry) (hdirectory : entry ≠ .directory) :
    c'.files.entryAt? location = none := by
  rw [files_of_unlink heffect hdeed, files_guardUnlink_of_leadsTo hleads hentry hdirectory]
  exact FileSystem.entryAt?_erase_self c.files hleads.ne_nil

/-- A socket file that is there already is gone from a place that a move asks to unlink. -/
theorem Accounted.entryAt?_of_clears (h : c.Accounted) (heffect : Effect c move c')
    {file : SocketFile} (hmem : file ∈ c.live) {mode : Nat}
    (hentry : c.files.entryAt? location = some (.socket file.socket mode))
    (hclears : c.Clears move location) :
    c'.files.entryAt? location ≠ some (.socket file.socket mode) := by
  cases hclears with
  | unlink hdeed hleads =>
      rw [entryAt?_of_unlink heffect hdeed hleads hentry (by rintro ⟨⟩)]
      rintro ⟨⟩
  | @bind path hdeed hleads =>
      have hold : file.socket ≠ c.host.nextSocket :=
        Nat.ne_of_lt (h.fresh file (List.mem_append_left _ hmem))
      rw [files_of_bind heffect hdeed]
      exact entryAt?_bindUnix_of_leadsTo hleads hentry hold

end

/-- Whatever was done before, a step on one endpoint removes the socket file of a live one exactly
if it is a bind or an end at a path that leads to the place of that file. It changes nothing at any
other place, and an end removes what it finds at its own place, whoever has put it there. -/
theorem live_socket_file_stays_iff {allowed : Custody → Daemon.Move → Custody → Prop}
    {config : Config} {identity : Identity} {sink : Sink} {host : Host} {c c' : Custody}
    {move : Daemon.Move} (hrun : Runs allowed (create config identity sink host) c)
    (hstep : c.step move = some c') (hown : ∀ files, move ≠ .meddle files) :
    (∀ file ∈ c.live, ∀ location mode,
      c.files.entryAt? location = some (.socket file.socket mode) →
        (c'.files.entryAt? location = some (.socket file.socket mode) ↔
          ¬ c.Clears move location)) ∧
      (∀ location, ¬ c.Clears move location →
        c'.files.entryAt? location = c.files.entryAt? location) ∧
      ∀ file location entry, c.daemon.deed? move = some (.unlink file) →
        c.files.LeadsTo file.path location → c.files.entryAt? location = some entry →
          entry ≠ .directory → c'.files.entryAt? location = none := by
  have hsound : c.Accounted := (accounted_create config identity sink host).of_runs hrun
  have heffect := effect_of_step hstep
  refine ⟨fun file hmem location mode hentry => ⟨fun hstays hclears => ?_, fun hclears => ?_⟩,
    fun location hclears => entryAt?_of_not_clears heffect hown hclears,
    fun file location entry hdeed hleads hentry hdirectory =>
      entryAt?_of_unlink heffect hdeed hleads hentry hdirectory⟩
  · exact hsound.entryAt?_of_clears heffect hmem hentry hclears hstays
  · rw [entryAt?_of_not_clears heffect hown hclears, hentry]

/-- Two endpoints at one path: the bind of the second one removes the socket file of the first one,
and the end of the first one removes that of the second one, which is live. -/
theorem shared_path_is_not_isolated :
    Runs (fun _ _ _ => True) (boundAt []) (boundAt [[0x73], [0x73]]) ∧
      (boundAt [[0x73]]).step (.bindAt (.unix [0x73])) = some (boundAt [[0x73], [0x73]]) ∧
      (boundAt [[0x73]]).files.entryAt? [[0x73]] = some (.socket 1 socketMode) ∧
      (boundAt [[0x73], [0x73]]).files.entryAt? [[0x73]] = some (.socket 2 socketMode) ∧
      (boundAt [[0x73], [0x73]]).live = [⟨1, [0x73]⟩, ⟨2, [0x73]⟩] ∧
      ((boundAt [[0x73], [0x73]]).step (.drop (.unix 1 [0x73]))).map
        (fun last => (last.live, last.files.entryAt? [[0x73]])) = some ([⟨2, [0x73]⟩], none) := by
  exact ⟨runs_boundAt _, step_boundAt _ _, by cbv, by cbv, by cbv, by cbv⟩

/-- With one path for two endpoints, the end of the first one removes the file of the second one. -/
theorem shared_path_is_cleared :
    ∃ last, (boundAt [[0x73], [0x73]]).step (.drop (.unix 1 [0x73])) = some last ∧
      (⟨2, [0x73]⟩ : SocketFile) ∈ (boundAt [[0x73], [0x73]]).live ∧
      last.files.entryAt? [[0x73]] ≠ some (.socket 2 socketMode) := by
  have hheld : (boundAt [[0x73], [0x73]]).held = [.unix 1 [0x73], .unix 2 [0x73]] := by cbv
  have hlive : (⟨2, [0x73]⟩ : SocketFile) ∈ (boundAt [[0x73], [0x73]]).live := by
    have hboth : (boundAt [[0x73], [0x73]]).live = [⟨1, [0x73]⟩, ⟨2, [0x73]⟩] := by cbv
    exact hboth ▸ List.mem_cons_of_mem _ List.mem_cons_self
  have hleads : (boundAt [[0x73], [0x73]]).files.LeadsTo [0x73] [[0x73]] :=
    ⟨rfl, rfl, [], [0x73], by cbv, rfl⟩
  have hstep := step_drop (hheld ▸ List.mem_cons_self)
  obtain ⟨hstays, -, -⟩ := live_socket_file_stays_iff (runs_boundAt _) hstep (by rintro files ⟨⟩)
  refine ⟨_, hstep, hlive, fun hkept => ?_⟩
  exact (hstays _ hlive [[0x73]] socketMode (by cbv)).mp hkept
    (@Clears.unlink _ _ _ ⟨1, [0x73]⟩ rfl hleads)

end Custody

end Beacon
