import Beacon.Daemon.Basic
import Beacon.Proofs.Endpoint
import Beacon.Proofs.Host.Obstacles
import Mathlib

/-!
# What becomes of a Unix bind

A bind at a path first removes what stands there, then makes a socket file, then opens it to
everybody. `UnixBinding` lists what can come of that, with the files that are left: one row for
each stage that fails and each reason it has, and one row for success.
-/

namespace Beacon

open FileSystem

/-- What can come of a bind at a path: the result, and the files after it. -/
inductive UnixBinding (host : Host) (path : Path) :
    Except BindError Endpoint → FileSystem → Prop where
  /-- What stands at the path cannot be removed. -/
  | kept {fault : SystemError} (h : host.files.Kept path fault) :
      UnixBinding host path (.error (.staleSocket path fault)) host.files
  /-- The removal fails although nothing can stand at the path. -/
  | unreachable {fault : SystemError} (h : host.files.Unreachable path fault) :
      UnixBinding host path (.error (.staleSocket path fault)) host.files
  /-- A socket without a file is made, whose mode cannot be set. -/
  | nameless (hpath : path = []) :
      UnixBinding host path (.error (.permissions path .noEntry)) host.files
  | absentOverlong (h : host.files.Absent path) (hlong : maxSocketPath < path.length) :
      UnixBinding host path (.error (.unix path .socketPathTooLong)) host.files
  /-- A name on the way is missing. -/
  | missing (htaken : IsTaken path) (hshort : path.length ≤ maxSocketPath)
      (hstuck : Stuck host.files maxLinks (host.files.start path) (names path).dropLast .noEntry) :
      UnixBinding host path (.error (.unix path .noEntry)) host.files
  /-- A slash after the last name asks for a directory. -/
  | slash {directory : Location} {name : Name} {trail : List Location}
      (hends : EndsIn host.files path directory name trail) (hshort : path.length ≤ maxSocketPath)
      (hname : IsLookedUp name) (hentry : host.files.entryAt? (directory ++ [name]) = none)
      (hslash : endsInSlash path = true) :
      UnixBinding host path (.error (.unix path .noEntry)) host.files
  | overlong {location : Location} {trail : List Location}
      (h : host.files.Removable path location trail) (hlong : maxSocketPath < path.length) :
      UnixBinding host path (.error (.unix path .socketPathTooLong)) (host.files.erase location)
  /-- The way to the path leads past what stood there. -/
  | crossed {location : Location} {trail : List Location}
      (h : host.files.Removable path location trail) (hshort : path.length ≤ maxSocketPath)
      (hmem : location ∈ trail) :
      UnixBinding host path (.error (.unix path .noEntry)) (host.files.erase location)
  /-- The mode of the socket file cannot be set, and the guard takes the file along. -/
  | refused {location : Location} {fault : SystemError} (h : host.files.Bindable path location)
      (hmode : host.modeFault? = some fault) :
      UnixBinding host path (.error (.permissions path fault)) (host.files.erase location)
  | bound {location : Location} (h : host.files.Bindable path location)
      (hmode : host.modeFault? = none) :
      UnixBinding host path (.ok (.unix host.nextSocket path))
        (host.files.insert location (.socket host.nextSocket socketMode))

/-! ## The stages -/

section

variable {host : Host} {files cleared : FileSystem} {path : Path} {location : Location}
  {trail : List Location} {fault : SystemError} {events : List Log.Event}

theorem clearPath_of_absent (h : files.Absent path) : clearPath files path = .ok (files, []) := by
  rw [clearPath, unlink_of_absent h]
  rfl

theorem clearPath_of_removable (h : files.Removable path location trail) :
    clearPath files path = .ok (files.erase location, [removedStale path]) := by
  obtain ⟨hway, entry, hentry, hdirectory⟩ := h
  rw [clearPath, unlink_of_leadsTo (leadsTo_iff_way.mpr ⟨trail, hway⟩) hentry hdirectory]

theorem result_of_unlink (hunlink : host.files.unlink path = .error fault)
    (hfault : fault ≠ .noEntry) :
    (bindUnix host path).result = .error (.staleSocket path fault) ∧
      (bindUnix host path).host.files = host.files := by
  rw [bindUnix, clearPath, hunlink]
  simp only [if_neg hfault, and_self]

theorem result_of_bindSocket (hclear : clearPath host.files path = .ok (cleared, events))
    (hbind : cleared.bindSocket host.nextSocket path = .error fault) :
    (bindUnix host path).result = .error (.unix path fault) ∧
      (bindUnix host path).host.files = cleared := by
  rw [bindUnix, hclear]
  simp only [hbind, and_self]

/-- Where a socket file can be made, nothing stands in its way once the path is cleared. -/
theorem exists_clearPath (h : files.Bindable path location) :
    ∃ cleared events, clearPath files path = .ok (cleared, events) ∧
      (∃ trail, cleared.Way path location trail) ∧ cleared.entryAt? location = none ∧
      cleared.erase location = files.erase location := by
  obtain ⟨-, hdirectory, trail, hway, hmem⟩ := h
  cases hentry : files.entryAt? location with
  | none =>
      obtain ⟨-, directory, name, hends, hname, rfl⟩ := id hway
      exact ⟨_, _, clearPath_of_absent (.vacant hends hname hentry), ⟨trail, hway⟩, hentry, rfl⟩
  | some entry =>
      have hremovable : files.Removable path location trail :=
        ⟨hway, entry, hentry, fun heq => hdirectory (hentry.trans (congrArg some heq))⟩
      exact ⟨_, _, clearPath_of_removable hremovable, ⟨trail, hway.of_erase hmem⟩,
        entryAt?_erase_self files hway.ne_nil, erase_erase files location⟩

/-- Once a socket file is made, only its mode is left to be set. -/
theorem result_of_bindable (h : host.files.Bindable path location) :
    match host.modeFault? with
    | some fault => (bindUnix host path).result = .error (.permissions path fault) ∧
        (bindUnix host path).host.files = host.files.erase location
    | none => (bindUnix host path).result = .ok (.unix host.nextSocket path) ∧
        (bindUnix host path).host.files =
          host.files.insert location (.socket host.nextSocket socketMode) := by
  obtain ⟨cleared, events, hclear, ⟨trail, hway⟩, hentry, herase⟩ := exists_clearPath h
  obtain ⟨-, hmade⟩ := bindUnix_of_made hclear (leadsTo_iff_way.mpr ⟨trail, hway⟩) hentry
    (bindSocket_of_way host.nextSocket hway h.1 hentry)
  cases hfault : host.modeFault? with
  | none =>
      rw [hfault] at hmade
      refine ⟨hmade.1, hmade.2.trans ?_⟩
      exact insert_of_erase_eq ((erase_insert cleared location _).trans herase) _
  | some fault =>
      rw [hfault] at hmade
      refine ⟨hmade.1, hmade.2.trans ?_⟩
      rw [← herase, erase_of_vacant hway.ne_nil hentry]

end

/-! ## The whole -/

variable {host : Host} {path : Path} {result : Except BindError Endpoint} {files : FileSystem}

/-- Every row tells what the bind does. -/
theorem UnixBinding.sound (h : UnixBinding host path result files) :
    (bindUnix host path).result = result ∧ (bindUnix host path).host.files = files := by
  cases h with
  | kept h => exact result_of_unlink (unlink_of_kept h) h.ne_noEntry
  | unreachable h => exact result_of_unlink (unlink_of_unreachable h) h.ne_noEntry
  | nameless hpath =>
      subst hpath
      exact ⟨rfl, rfl⟩
  | absentOverlong h hlong =>
      exact result_of_bindSocket (clearPath_of_absent h) (bindSocket_of_long _ h.zero hlong)
  | missing htaken hshort hstuck =>
      exact result_of_bindSocket (clearPath_of_absent (.way htaken hstuck))
        (bindSocket_of_stuck _ htaken hshort hstuck)
  | slash hends hshort hname hentry hslash =>
      exact result_of_bindSocket (clearPath_of_absent (.vacant hends hname hentry))
        (bindSocket_of_slash _ hends hshort hname hentry hslash)
  | overlong h hlong =>
      exact result_of_bindSocket (clearPath_of_removable h)
        (bindSocket_of_long _ h.1.taken.zero hlong)
  | crossed h hshort hmem =>
      exact result_of_bindSocket (clearPath_of_removable h)
        (bindSocket_of_stuck _ h.1.taken hshort (h.1.stuck_erase hmem))
  | refused h hmode =>
      have hresult := result_of_bindable h
      rwa [hmode] at hresult
  | bound h hmode =>
      have hresult := result_of_bindable h
      rwa [hmode] at hresult

theorem exists_row_of_bindable {location : Location} (h : host.files.Bindable path location) :
    ∃ result files, UnixBinding host path result files := by
  cases hmode : host.modeFault? with
  | none => exact ⟨_, _, .bound h hmode⟩
  | some fault => exact ⟨_, _, .refused h hmode⟩

/-- Some row holds of every path on every host. -/
theorem exists_row (host : Host) (path : Path) :
    ∃ result files, UnixBinding host path result files := by
  obtain habsent | ⟨fault, h⟩ | ⟨fault, h⟩ | ⟨location, trail, h⟩ :=
    absent_or_unreachable_or_kept_or_removable host.files path
  · obtain hlong | hshort := Nat.lt_or_ge maxSocketPath path.length
    · exact ⟨_, _, .absentOverlong habsent hlong⟩
    cases habsent with
    | empty hpath => exact ⟨_, _, .nameless hpath⟩
    | way htaken hstuck => exact ⟨_, _, .missing htaken hshort hstuck⟩
    | @vacant directory name trail hends hname hentry =>
        cases hslash : endsInSlash path with
        | true => exact ⟨_, _, .slash hends hshort hname hentry hslash⟩
        | false =>
            refine exists_row_of_bindable ⟨hshort, ?_, trail,
              ⟨hslash, directory, name, hends, hname, rfl⟩, fun hmem => ?_⟩
            · rw [hentry]
              rintro ⟨⟩
            · -- On a way stand directories and links, and here stands nothing.
              have hpassed := hends.walk.entryAt?_of_mem_trail hmem
              rw [hentry] at hpassed
              obtain hpassed | ⟨target, hpassed⟩ := hpassed
              · cases hpassed
              · cases hpassed
  · exact ⟨_, _, .unreachable h⟩
  · exact ⟨_, _, .kept h⟩
  · obtain hlong | hshort := Nat.lt_or_ge maxSocketPath path.length
    · exact ⟨_, _, .overlong h hlong⟩
    by_cases hmem : location ∈ trail
    · exact ⟨_, _, .crossed h hshort hmem⟩
    · obtain ⟨hway, entry, hentry, hdirectory⟩ := h
      refine exists_row_of_bindable ⟨hshort, ?_, trail, hway, hmem⟩
      rw [hentry]
      exact fun heq => hdirectory (Option.some.inj heq)

theorem unixBinding (host : Host) (path : Path) :
    UnixBinding host path (bindUnix host path).result (bindUnix host path).host.files := by
  obtain ⟨result, files, hrow⟩ := exists_row host path
  obtain ⟨rfl, rfl⟩ := hrow.sound
  exact hrow

theorem result_bindUnix_eq_iff :
    (bindUnix host path).result = result ↔ ∃ files, UnixBinding host path result files := by
  constructor
  · rintro rfl
    exact ⟨_, unixBinding host path⟩
  · rintro ⟨files, hrow⟩
    exact hrow.sound.1

/-! ## Plain paths -/

/-- The last name of a path follows the names of the part before it, which ends in a slash. -/
theorem names_append {parent : Path} {name : Name}
    (hparent : parent = [] ∨ endsInSlash parent = true) (hnonempty : name ≠ [])
    (hslash : slash ∉ name) : names (parent ++ name) = names parent ++ [name] := by
  have hname : name.splitOnP (· == slash) = [name] :=
    List.splitOnP_eq_singleton fun octet hmem => beq_eq_false_iff_ne.mpr fun heq =>
      hslash (heq ▸ hmem)
  have hkept : ([name].filter fun name => !name.isEmpty) = [name] := by
    simpa using hnonempty
  rw [names, names, List.splitOn_eq_splitOnP, List.splitOn_eq_splitOnP]
  obtain rfl | hparent := hparent
  · rw [List.nil_append, hname, hkept]
    rfl
  · -- After the slash at the end of the parent there is nothing, or just the name.
    obtain ⟨before, rfl⟩ : ∃ before, parent = before ++ [slash] := by
      rw [endsInSlash, beq_iff_eq] at hparent
      exact ⟨_, (List.dropLast_append_getLast? _ hparent).symm⟩
    have hcut (rest : Path) : (before ++ slash :: rest).splitOnP (· == slash) =
        before.splitOnP (· == slash) ++ rest.splitOnP (· == slash) :=
      List.splitOnP_append_cons before rest (beq_self_eq_true _)
    rw [List.append_assoc, List.cons_append, List.nil_append, hcut name, hcut [], hname,
      List.filter_append, hkept, List.filter_append, List.splitOnP_nil]
    simp

/-- A path is that of a directory, or nothing, with an ordinary name after it, and a socket can have
it: it is no longer than 107 octets, none of which is zero. -/
structure IsPlain (path parent : Path) (name : Name) : Prop where
  split : path = parent ++ name
  parent : parent = [] ∨ endsInSlash parent = true
  nonempty : name ≠ []
  slash : FileSystem.slash ∉ name
  ordinary : name ≠ selfName ∧ name ≠ parentName
  zero : 0 ∉ path
  length : path.length ≤ 107

namespace IsPlain

variable {parent : Path} {name : Name} (h : IsPlain path parent name)

include h

theorem names_eq : names path = names parent ++ [name] := by
  rw [h.split, names_append h.parent h.nonempty h.slash]

theorem start_eq (fs : FileSystem) : fs.start path = fs.start parent := by
  have habsolute : isAbsolute path = isAbsolute parent := by
    rw [h.split, isAbsolute, isAbsolute]
    cases parent with
    | cons octet rest => rfl
    | nil =>
        rw [List.nil_append, List.head?_nil]
        refine beq_eq_false_iff_ne.mpr fun hhead => h.slash (List.mem_of_mem_head? hhead)
  rw [FileSystem.start, FileSystem.start, habsolute]

theorem endsInSlash_eq : endsInSlash path = false := by
  rw [h.split, endsInSlash, List.getLast?_append_of_ne_nil _ h.nonempty]
  exact beq_eq_false_iff_ne.mpr fun hlast => h.slash (List.mem_of_mem_getLast? hlast)

theorem isTaken : IsTaken path := by
  refine .of_short ?_ ?_ h.length
  · rw [hasZero, List.contains_eq_mem, decide_eq_false_iff_not]
    exact h.zero
  · rw [h.split]
    exact List.append_ne_nil_of_right_ne_nil parent h.nonempty

theorem isLookedUp : IsLookedUp name := by
  refine ⟨?_, h.ordinary⟩
  have hlength := h.length
  rw [h.split, List.length_append] at hlength
  unfold maxName
  omega

/-- A plain path has a way to its name in the directory that its parent leads to. -/
theorem way {fs : FileSystem} {directory : Location} {trail : List Location}
    (hwalk : Walk fs maxLinks (fs.start parent) (names parent) directory trail) :
    fs.Way path (directory ++ [name]) trail := by
  refine ⟨h.endsInSlash_eq, directory, name, ⟨h.isTaken, ?_, ?_⟩, h.isLookedUp, rfl⟩
  · rw [h.names_eq, List.getLast?_concat]
  · rw [h.names_eq, List.dropLast_concat, h.start_eq]
    exact hwalk

end IsPlain

/-! ## What is left -/

/-- Every socket file on a host is older than the next socket. -/
def Host.NumbersSockets (host : Host) : Prop :=
  ∀ location id mode, host.files.entryAt? location = some (.socket id mode) → id < host.nextSocket

/-- A bind has left a new socket that everybody may connect to, and else everything as it was. -/
structure LeavesSocket (host : Host) (path : Path) (endpoint : Endpoint) (after : Host) :
    Prop where
  endpoint : endpoint = .unix host.nextSocket path
  listening : after.listening = .unix host.nextSocket :: host.listening
  /-- No socket file before was that of the new socket, nor will it be that of the next one. -/
  numbers : host.NumbersSockets → after.NumbersSockets ∧
    ∀ location mode, host.files.entryAt? location ≠ some (.socket host.nextSocket mode)
  stands : ∃ location, host.files.LeadsTo path location ∧ after.files.LeadsTo path location ∧
    after.files.entryAt? location = some (.socket host.nextSocket 0o777) ∧
      ∀ other, other ≠ location → after.files.entryAt? other = host.files.entryAt? other
  current : after.files.current = host.files.current

/-- A bind has left no socket, and nothing but the entry at its path is other than before, which is
the same too if it is a directory. -/
structure LeavesNoSocket (host : Host) (path : Path) (after : Host) : Prop where
  listening : after.listening = host.listening
  sockets : ∀ location id mode, after.files.entryAt? location = some (.socket id mode) →
    host.files.entryAt? location = some (.socket id mode)
  others : ∀ location, ¬ host.files.LeadsTo path location →
    after.files.entryAt? location = host.files.entryAt? location
  directory : ∀ location, host.files.LeadsTo path location →
    host.files.entryAt? location = some .directory → after.files = host.files
  current : after.files.current = host.files.current

theorem UnixBinding.current (h : UnixBinding host path result files) :
    files.current = host.files.current := by
  cases h <;> rfl

theorem listening_bindUnix (host : Host) (path : Path) :
    (bindUnix host path).host.listening =
      match (bindUnix host path).result with
      | .ok _ => .unix host.nextSocket :: host.listening
      | .error _ => host.listening := by
  unfold bindUnix
  split
  · rfl
  · dsimp only
    split
    · rfl
    · split <;> rfl

/-- A bind keeps the sockets of a host numbered. -/
theorem Host.NumbersSockets.bindUnix (h : host.NumbersSockets) (path : Path) :
    (bindUnix host path).host.NumbersSockets := by
  intro location id mode hentry
  have hnext := nextSocket_le_bindUnix host path
  obtain hbefore | ⟨⟨endpoint, hresult⟩, -, hmade⟩ := entryAt?_of_bindUnix hentry
  · exact Nat.lt_of_lt_of_le (h location id mode hbefore) hnext
  · cases hmade
    rw [(holds_of_bindUnix hresult).2.1]
    exact Nat.lt_succ_self _

theorem leavesSocket_of_ok {endpoint : Endpoint} (h : (bindUnix host path).result = .ok endpoint) :
    LeavesSocket host path endpoint (bindUnix host path).host where
  endpoint := (holds_of_bindUnix h).1
  listening := by rw [listening_bindUnix, h]
  numbers hnumbers := by
    refine ⟨hnumbers.bindUnix path, fun location mode hentry => ?_⟩
    exact Nat.lt_irrefl _ (hnumbers location _ mode hentry)
  stands := by
    obtain ⟨location, hbefore, hafter, hentry⟩ := place_of_bindUnix h
    refine ⟨location, hbefore, hafter, hentry, fun other hother => ?_⟩
    exact entryAt?_bindUnix_of_not_leadsTo fun hleads => hother (hleads.unique hbefore)
  current := (unixBinding host path).current

theorem leavesNoSocket_of_error {error : BindError}
    (h : (bindUnix host path).result = .error error) :
    LeavesNoSocket host path (bindUnix host path).host where
  listening := by rw [listening_bindUnix, h]
  sockets location id mode hentry := by
    obtain hbefore | ⟨⟨endpoint, hresult⟩, -, -⟩ := entryAt?_of_bindUnix hentry
    · exact hbefore
    · rw [h] at hresult
      cases hresult
  others _ hleads := entryAt?_bindUnix_of_not_leadsTo hleads
  directory location hleads hentry := by
    obtain ⟨trail, -, directory, name, hends, hname, rfl⟩ := leadsTo_iff_way.mp hleads
    exact (UnixBinding.kept (.directory hends hname hentry)).sound.2
  current := (unixBinding host path).current

/-- When a bind succeeds, and what it leaves when it does and when it does not. -/
structure BindsUnix (host : Host) (path : Path) : Prop where
  /-- Whatever stands at a plain path is replaced, unless it is a directory, or the way to the path
  leads past it. -/
  succeeds : ∀ parent name directory trail, host.modeFault? = none → IsPlain path parent name →
    Walk host.files maxLinks (host.files.start parent) (names parent) directory trail →
      host.files.entryAt? (directory ++ [name]) ≠ some .directory →
        directory ++ [name] ∉ trail → ∃ endpoint, (bindUnix host path).result = .ok endpoint
  bound : ∀ endpoint, (bindUnix host path).result = .ok endpoint →
    LeavesSocket host path endpoint (bindUnix host path).host
  failed : ∀ error, (bindUnix host path).result = .error error →
    LeavesNoSocket host path (bindUnix host path).host

/-- A bind at a plain path succeeds whatever stands there that is no directory and not on the way;
it changes nothing but the entry at its path, and leaves a socket there exactly if it succeeds. -/
theorem unix_bind_replaces_or_keeps (host : Host) (path : Path) : BindsUnix host path where
  succeeds _ _ _ trail hmode hplain hwalk hentry hmem :=
    ⟨_, (UnixBinding.bound ⟨hplain.length, hentry, trail, hplain.way hwalk, hmem⟩ hmode).sound.1⟩
  bound _ h := leavesSocket_of_ok h
  failed _ h := leavesNoSocket_of_error h

def linked (name : Name) (target : Path) : Host :=
  .idle ⟨[([name], .link target)], []⟩ true

/-- A link that leads nowhere is replaced. -/
theorem dangling_link_is_replaced :
    (linked [0x73] [0x74]).files.entryAt? [[0x73]] = some (.link [0x74]) ∧
      (bindUnix (linked [0x73] [0x74]) [0x73]).result = .ok (.unix 1 [0x73]) := by
  have hplain : IsPlain [0x73] [] [0x73] :=
    ⟨rfl, .inl rfl, by decide, by decide, by decide, by decide, by decide⟩
  obtain ⟨hsucceeds, hbound, -⟩ := unix_bind_replaces_or_keeps (linked [0x73] [0x74]) [0x73]
  obtain ⟨endpoint, hresult⟩ :=
    hsucceeds _ _ _ _ rfl hplain (.done _ _) (by decide) (List.not_mem_nil)
  refine ⟨by decide, ?_⟩
  rw [hresult, (hbound endpoint hresult).endpoint]
  rfl

/-- A plain path whose parent is reached through the link that stands at the path: the link is
removed, and then the parent is missing. -/
theorem own_link_cuts_its_way :
    IsPlain [0x78, 0x2F, 0x78] [0x78, 0x2F] [0x78] ∧
      (∃ trail, Walk (linked [0x78] [0x2E]).files maxLinks
        ((linked [0x78] [0x2E]).files.start [0x78, 0x2F]) (names [0x78, 0x2F]) [] trail) ∧
      (linked [0x78] [0x2E]).files.entryAt? ([] ++ [[0x78]]) = some (.link [0x2E]) ∧
      (bindUnix (linked [0x78] [0x2E]) [0x78, 0x2F, 0x78]).result =
        .error (.unix [0x78, 0x2F, 0x78] .noEntry) ∧
      (bindUnix (linked [0x78] [0x2E]) [0x78, 0x2F, 0x78]).host.files.entryAt? [[0x78]] = none := by
  have hplain : IsPlain [0x78, 0x2F, 0x78] [0x78, 0x2F] [0x78] :=
    ⟨rfl, .inr rfl, by decide, by decide, by decide, by decide, by decide⟩
  exact ⟨hplain, walk_of_resolve (by cbv), by decide, by cbv, by cbv⟩

end Beacon
