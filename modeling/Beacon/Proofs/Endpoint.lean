import Beacon.Endpoint
import Beacon.Proofs.Host.FileSystem

/-!
# What binding and unlinking leave

A bind that succeeds leaves its socket file at its path, and a guard that unlinks a socket file
leaves nothing there. Neither changes any entry but the one at its path.
-/

namespace Beacon

open FileSystem

/-! ## Guards -/

section

variable {files : FileSystem} {path : Path}

@[simp] theorem attempts_guardUnlink (files : FileSystem) (path : Path) :
    (guardUnlink files path).attempts = [path] := by
  unfold guardUnlink
  split
  · rfl
  · split <;> rfl

/-- A guard either removes what stands at its path, or leaves everything. -/
theorem files_guardUnlink (files : FileSystem) (path : Path) :
    (guardUnlink files path).files = files ∨
      ∃ location, files.LeadsTo path location ∧
        (guardUnlink files path).files = files.erase location := by
  unfold guardUnlink
  split
  next files' hunlink =>
    obtain ⟨location, entry, hleads, -, -, rfl⟩ := leadsTo_of_unlink hunlink
    exact .inr ⟨location, hleads, rfl⟩
  · split <;> exact .inl rfl

/-- A guard removes what stands at its path and is no directory. -/
theorem files_guardUnlink_of_leadsTo {location : Location} {entry : Entry}
    (h : files.LeadsTo path location) (hentry : files.entryAt? location = some entry)
    (hdirectory : entry ≠ .directory) :
    (guardUnlink files path).files = files.erase location := by
  rw [guardUnlink, unlink_of_leadsTo h hentry hdirectory]

/-- A guard changes no entry but the one at its path. -/
theorem entryAt?_guardUnlink_of_not_leadsTo {other : Location} (h : ¬ files.LeadsTo path other) :
    (guardUnlink files path).files.entryAt? other = files.entryAt? other := by
  obtain hfiles | ⟨location, hleads, hfiles⟩ := files_guardUnlink files path
  · rw [hfiles]
  · rw [hfiles]
    refine entryAt?_erase_of_ne files ?_
    rintro rfl
    exact h hleads

/-- A guard that unlinks a socket file leaves nothing at its path. -/
theorem isVacant_guardUnlink {id mode : Nat} (h : files.Holds path (.socket id mode)) :
    (guardUnlink files path).files.IsVacant path := by
  obtain ⟨location, hleads, hentry⟩ := h
  rw [files_guardUnlink_of_leadsTo hleads hentry (by rintro ⟨⟩)]
  exact ⟨location, hleads.of_keepsWays (keepsWays_erase hentry),
    entryAt?_erase_self files hleads.ne_nil⟩

/-- A guard puts nothing anywhere. -/
theorem entryAt?_of_guardUnlink {location : Location} {entry : Entry}
    (h : (guardUnlink files path).files.entryAt? location = some entry) :
    files.entryAt? location = some entry := by
  obtain hfiles | ⟨gone, hgone, hfiles⟩ := files_guardUnlink files path
  · rwa [hfiles] at h
  · rw [hfiles] at h
    exact entryAt?_of_erase hgone.ne_nil h

/-- Where a guard unlinks a socket file, every other path leads where it did. -/
theorem leadsTo_guardUnlink {path' : Path} {id mode : Nat} {location : Location}
    (h : files.Holds path (.socket id mode)) (h' : files.LeadsTo path' location) :
    (guardUnlink files path).files.LeadsTo path' location := by
  obtain ⟨gone, hleads, hentry⟩ := h
  rw [files_guardUnlink_of_leadsTo hleads hentry (by rintro ⟨⟩)]
  exact h'.of_keepsWays (keepsWays_erase hentry)

/-- A guard that unlinks one socket file leaves every other one where it is. -/
theorem holds_guardUnlink {path' : Path} {id mode id' mode' : Nat}
    (h : files.Holds path (.socket id mode)) (h' : files.Holds path' (.socket id' mode'))
    (hne : id ≠ id') : (guardUnlink files path).files.Holds path' (.socket id' mode') := by
  obtain ⟨location', hleads', hentry'⟩ := h'
  refine ⟨location', leadsTo_guardUnlink h hleads', ?_⟩
  obtain ⟨location, hleads, hentry⟩ := h
  rw [files_guardUnlink_of_leadsTo hleads hentry (by rintro ⟨⟩), entryAt?_erase_of_ne files,
    hentry']
  rintro rfl
  rw [hentry] at hentry'
  cases hentry'
  exact hne rfl

end

/-! ## Clearing -/

/-- Clearing a path removes what stands there, or changes nothing. -/
theorem files_clearPath {files cleared : FileSystem} {path : Path} {events : List Log.Event}
    (h : clearPath files path = .ok (cleared, events)) :
    cleared = files ∨
      ∃ location, files.LeadsTo path location ∧ cleared = files.erase location := by
  unfold clearPath at h
  split at h
  next files' hunlink =>
    obtain ⟨location, entry, hleads, -, -, rfl⟩ := leadsTo_of_unlink hunlink
    cases h
    exact .inr ⟨location, hleads, rfl⟩
  · split at h
    · cases h
      exact .inl rfl
    · cases h

/-- A path that still leads somewhere after it was cleared led there before. -/
theorem leadsTo_of_clearPath {files cleared : FileSystem} {path : Path}
    {events : List Log.Event} {location : Location}
    (hclear : clearPath files path = .ok (cleared, events)) (h : cleared.LeadsTo path location) :
    files.LeadsTo path location := by
  obtain rfl | ⟨gone, hgone, rfl⟩ := files_clearPath hclear
  · exact h
  · exact h.of_keepsWays (keepsWays_of_erase files hgone.ne_nil)

theorem entryAt?_clearPath_of_not_leadsTo {files cleared : FileSystem} {path : Path}
    {events : List Log.Event} {other : Location}
    (hclear : clearPath files path = .ok (cleared, events)) (h : ¬ files.LeadsTo path other) :
    cleared.entryAt? other = files.entryAt? other := by
  obtain rfl | ⟨gone, hgone, rfl⟩ := files_clearPath hclear
  · rfl
  · refine entryAt?_erase_of_ne files ?_
    rintro rfl
    exact h hgone

/-- Clearing a path puts nothing anywhere. -/
theorem entryAt?_of_clearPath {files cleared : FileSystem} {path : Path} {events : List Log.Event}
    {location : Location} {entry : Entry} (hclear : clearPath files path = .ok (cleared, events))
    (h : cleared.entryAt? location = some entry) : files.entryAt? location = some entry := by
  obtain rfl | ⟨gone, hgone, rfl⟩ := files_clearPath hclear
  · exact h
  · exact entryAt?_of_erase hgone.ne_nil h

/-! ## Binding -/

/-- What comes of binding at a path: what stands there cannot be removed, or no endpoint is made
once it is, or a socket file of the right mode is made where nothing stands any more. -/
inductive BindOutcome (host : Host) (path : Path) (attempt : BindAttempt) : Prop where
  | blocked {fault : SystemError} {failure : BindError}
      (hclear : clearPath host.files path = .error fault)
      (hresult : attempt.result = .error failure) (hhost : attempt.host = host)
  | refused {cleared : FileSystem} {events : List Log.Event} {failure : BindError}
      (hclear : clearPath host.files path = .ok (cleared, events))
      (hresult : attempt.result = .error failure) (hfiles : attempt.host.files = cleared)
      (hsocket : host.nextSocket ≤ attempt.host.nextSocket)
  | bound {cleared : FileSystem} {events : List Log.Event} {location : Location}
      (hclear : clearPath host.files path = .ok (cleared, events))
      (hleads : cleared.LeadsTo path location) (hentry : cleared.entryAt? location = none)
      (hresult : attempt.result = .ok (.unix host.nextSocket path))
      (hfiles : attempt.host.files =
        (cleared.insert location (.socket host.nextSocket freshMode)).insert location
          (.socket host.nextSocket socketMode))
      (hsocket : attempt.host.nextSocket = host.nextSocket + 1)

/-- Once a socket file is made where nothing stood, either its mode is set, or the guard takes the
file along that cannot be opened to everybody. -/
theorem bindUnix_of_made {host : Host} {path : Path} {cleared : FileSystem}
    {events : List Log.Event} {location : Location}
    (hclear : clearPath host.files path = .ok (cleared, events))
    (hleads : cleared.LeadsTo path location) (hentry : cleared.entryAt? location = none)
    (hbind : cleared.bindSocket host.nextSocket path =
      .ok (cleared.insert location (.socket host.nextSocket freshMode))) :
    (bindUnix host path).host.nextSocket = host.nextSocket + 1 ∧
      match host.modeFault? with
      | some fault => (bindUnix host path).result = .error (.permissions path fault) ∧
          (bindUnix host path).host.files = cleared
      | none => (bindUnix host path).result = .ok (.unix host.nextSocket path) ∧
          (bindUnix host path).host.files =
            (cleared.insert location (.socket host.nextSocket freshMode)).insert location
              (.socket host.nextSocket socketMode) := by
  have hmade := hleads.of_keepsWays
    (keepsWays_insert hentry (.socket host.nextSocket freshMode))
  have hsocket := entryAt?_insert_self cleared (.socket host.nextSocket freshMode) hleads.ne_nil
  have hmode := setMode_of_leadsTo hmade hsocket socketMode
  rw [bindUnix, hclear]
  cases hfault : host.modeFault? with
  | none =>
      simp only [hbind, Host.setMode, hmode, hfault]
      exact ⟨rfl, trivial, rfl⟩
  | some fault =>
      simp only [hbind, Host.setMode, hmode, hfault, true_and]
      change (guardUnlink _ path).files = cleared
      rw [files_guardUnlink_of_leadsTo hmade hsocket (by rintro ⟨⟩), erase_insert,
        erase_of_vacant hleads.ne_nil hentry]

theorem bindOutcome (host : Host) (path : Path) : BindOutcome host path (bindUnix host path) := by
  cases hclear : clearPath host.files path with
  | error fault =>
      rw [bindUnix, hclear]
      exact .blocked hclear rfl rfl
  | ok result =>
      obtain ⟨cleared, events⟩ := result
      cases hbind : cleared.bindSocket host.nextSocket path with
      | error fault =>
          rw [bindUnix, hclear]
          simp only [hbind]
          exact .refused hclear rfl rfl (Nat.le_refl _)
      | ok made =>
          by_cases hempty : path = []
          · -- The empty path makes a socket without a file, whose mode cannot be set.
            subst hempty
            rw [bindUnix, hclear]
            cases hbind
            exact .refused hclear rfl rfl (Nat.le_succ _)
          · obtain ⟨location, hleads, hentry, rfl⟩ := leadsTo_of_bindSocket hempty hbind
            obtain ⟨hsocket, hmade⟩ := bindUnix_of_made hclear hleads hentry hbind
            cases hfault : host.modeFault? with
            | none =>
                rw [hfault] at hmade
                exact .bound hclear hleads hentry hmade.1 hmade.2 hsocket
            | some fault =>
                rw [hfault] at hmade
                exact .refused hclear hmade.1 hmade.2 (hsocket ▸ Nat.le_succ _)

/-- Where a bind that succeeds puts its socket file: the path leads there before it and after it. -/
theorem place_of_bindUnix {host : Host} {path : Path} {endpoint : Endpoint}
    (h : (bindUnix host path).result = .ok endpoint) :
    ∃ location, host.files.LeadsTo path location ∧
      (bindUnix host path).host.files.LeadsTo path location ∧
      (bindUnix host path).host.files.entryAt? location =
        some (.socket host.nextSocket socketMode) := by
  cases bindOutcome host path with
  | blocked _ hresult _ =>
      rw [hresult] at h
      cases h
  | refused _ hresult _ _ =>
      rw [hresult] at h
      cases h
  | @bound cleared _ location hclear hleads hentry _ hfiles _ =>
      refine ⟨location, leadsTo_of_clearPath hclear hleads, ?_, ?_⟩
      · have hmade := hleads.of_keepsWays (keepsWays_insert hentry
          (.socket host.nextSocket freshMode))
        rw [hfiles]
        refine hmade.of_keepsWays ⟨rfl, fun other hway => entryAt?_insert_of_ne _ _ ?_⟩
        rintro rfl
        rw [entryAt?_insert_self _ _ hleads.ne_nil] at hway
        obtain hway | ⟨target, hway⟩ := hway
        · cases hway
        · cases hway
      · rw [hfiles, entryAt?_insert_self _ _ hleads.ne_nil]

/-- A bind that succeeds leaves a new socket of the right mode at its path. -/
theorem holds_of_bindUnix {host : Host} {path : Path} {endpoint : Endpoint}
    (h : (bindUnix host path).result = .ok endpoint) :
    endpoint = .unix host.nextSocket path ∧
      (bindUnix host path).host.nextSocket = host.nextSocket + 1 ∧
      (bindUnix host path).host.files.Holds path (.socket host.nextSocket socketMode) := by
  obtain ⟨location, -, hleads, hentry⟩ := place_of_bindUnix h
  cases bindOutcome host path with
  | blocked _ hresult _ =>
      rw [hresult] at h
      cases h
  | refused _ hresult _ _ =>
      rw [hresult] at h
      cases h
  | bound _ _ _ hresult _ hsocket =>
      rw [hresult] at h
      cases h
      exact ⟨rfl, hsocket, location, hleads, hentry⟩

/-- What stands somewhere after a bind stood there before it, unless it is the socket file that the
bind has made. -/
theorem entryAt?_of_bindUnix {host : Host} {path : Path} {location : Location} {entry : Entry}
    (h : (bindUnix host path).host.files.entryAt? location = some entry) :
    host.files.entryAt? location = some entry ∨
      (∃ endpoint, (bindUnix host path).result = .ok endpoint) ∧
        (bindUnix host path).host.files.LeadsTo path location ∧
        entry = .socket host.nextSocket socketMode := by
  cases bindOutcome host path with
  | blocked _ _ hhost =>
      rw [hhost] at h
      exact .inl h
  | refused hclear _ hfiles _ =>
      rw [hfiles] at h
      exact .inl (entryAt?_of_clearPath hclear h)
  | @bound cleared _ made hclear hleads _ hresult hfiles _ =>
      by_cases hsame : location = made
      · subst hsame
        obtain ⟨place, hbefore, hafter, hentry⟩ := place_of_bindUnix hresult
        obtain rfl := hbefore.unique (leadsTo_of_clearPath hclear hleads)
        exact .inr ⟨⟨_, hresult⟩, hafter, Option.some.inj (h.symm.trans hentry)⟩
      · rw [hfiles, entryAt?_insert_of_ne _ _ hsame, entryAt?_insert_of_ne _ _ hsame] at h
        exact .inl (entryAt?_of_clearPath hclear h)

theorem length_of_bindUnix {host : Host} {path : Path} {endpoint : Endpoint}
    (h : (bindUnix host path).result = .ok endpoint) : path.length ≤ maxSocketPath := by
  unfold bindUnix at h
  split at h
  · cases h
  · dsimp only at h
    split at h
    · cases h
    next hbind => exact length_of_bindSocket hbind

/-- A bind changes no entry but the one at its path, whatever comes of it. -/
theorem entryAt?_bindUnix_of_not_leadsTo {host : Host} {path : Path} {other : Location}
    (h : ¬ host.files.LeadsTo path other) :
    (bindUnix host path).host.files.entryAt? other = host.files.entryAt? other := by
  cases bindOutcome host path with
  | blocked _ _ hhost => rw [hhost]
  | refused hclear _ hfiles _ => rw [hfiles, entryAt?_clearPath_of_not_leadsTo hclear h]
  | @bound cleared _ location hclear hleads hentry _ hfiles _ =>
      have hne : other ≠ location := by
        rintro rfl
        exact h (leadsTo_of_clearPath hclear hleads)
      rw [hfiles, entryAt?_insert_of_ne _ _ hne, entryAt?_insert_of_ne _ _ hne,
        entryAt?_clearPath_of_not_leadsTo hclear h]

/-- A socket file at the path of a bind is gone after it, whatever comes of it. -/
theorem entryAt?_bindUnix_of_leadsTo {host : Host} {path : Path} {location : Location}
    {id mode : Nat} (h : host.files.LeadsTo path location)
    (hentry : host.files.entryAt? location = some (.socket id mode))
    (hid : id ≠ host.nextSocket) :
    (bindUnix host path).host.files.entryAt? location ≠ some (.socket id mode) := by
  have hunlink := unlink_of_leadsTo h hentry (by rintro ⟨⟩)
  have hcleared : clearPath host.files path =
      .ok (host.files.erase location, [removedStale path]) := by
    rw [clearPath, hunlink]
  cases bindOutcome host path with
  | blocked hclear _ _ =>
      rw [hcleared] at hclear
      cases hclear
  | refused hclear _ hfiles _ =>
      rw [hcleared] at hclear
      cases hclear
      rw [hfiles, entryAt?_erase_self _ h.ne_nil]
      rintro ⟨⟩
  | bound hclear hleads _ _ hfiles _ =>
      obtain rfl := h.unique (leadsTo_of_clearPath hclear hleads)
      rw [hfiles, entryAt?_insert_self _ _ h.ne_nil]
      intro heq
      cases heq
      exact hid rfl

theorem nextSocket_le_bindUnix (host : Host) (path : Path) :
    host.nextSocket ≤ (bindUnix host path).host.nextSocket := by
  cases bindOutcome host path with
  | blocked _ _ hhost => exact Nat.le_of_eq (congrArg Host.nextSocket hhost.symm)
  | refused _ _ _ hsocket => exact hsocket
  | bound _ _ _ _ _ hsocket => omega

/-! ## Addresses -/

namespace Transport

variable {transport : Transport}

theorem address_eq_tcp_iff {port : Port} :
    transport.address = .tcp port ↔ transport.tcpPort? = some port := by
  cases transport <;> simp [address, tcpPort?]

theorem address_eq_unix_iff {path : Path} :
    transport.address = .unix path ↔ transport.socketPath? = some path := by
  cases transport <;> simp [address, socketPath?]

end Transport

/-- A listener on a port that is asked for is a listener on that port. -/
theorem eq_of_listenTcp {host after : Host} {port bound : Port} (hport : port ≠ 0)
    (h : host.listenTcp port = .ok (bound, after)) : bound = port := by
  rw [Host.listenTcp, if_neg hport] at h
  split at h
  · cases h
  · cases h
    rfl

/-- An endpoint listens at the address of the transport that it was bound for, unless the system
was to pick a port. -/
theorem address_of_bindTransport {host : Host} {transport : Transport} {endpoint : Endpoint}
    (hport : transport ≠ .tcp 0) (h : (bindTransport host transport).result = .ok endpoint) :
    endpoint.address = transport.address := by
  have htcp : ∀ port, port ≠ 0 → (bindTcp host port).result = .ok endpoint →
      endpoint.address = .tcp port := by
    intro port hne hbind
    unfold bindTcp at hbind
    split at hbind
    · cases hbind
    next bound after hlisten =>
      cases hbind
      rw [eq_of_listenTcp hne hlisten]
      rfl
  cases transport with
  | tcp port => exact htcp port (fun hzero => hport (congrArg Transport.tcp hzero)) h
  | defaultTcp => exact htcp defaultPort (by decide) h
  | unix path =>
      obtain ⟨rfl, -, -⟩ := holds_of_bindUnix h
      rfl

theorem length_of_bindTransport {host : Host} {transport : Transport} {socket : Nat} {path : Path}
    (h : (bindTransport host transport).result = .ok (.unix socket path)) :
    path.length ≤ maxSocketPath := by
  have htcp : ∀ port, (bindTcp host port).result ≠ .ok (.unix socket path) := by
    intro port hbind
    unfold bindTcp at hbind
    split at hbind <;> cases hbind
  cases transport with
  | tcp port => exact absurd h (htcp port)
  | defaultTcp => exact absurd h (htcp defaultPort)
  | unix path' =>
      obtain ⟨hendpoint, -, -⟩ := holds_of_bindUnix h
      cases hendpoint
      exact length_of_bindUnix h

end Beacon
