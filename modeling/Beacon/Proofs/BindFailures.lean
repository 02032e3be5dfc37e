import Beacon.Host.Tools
import Beacon.Proofs.Binding
import Beacon.Proofs.Daemon.Custody

/-!
# What a failed bind tells and leaves

The error of a failed bind names the system call that failed. That is not always the stage at which
the bind was bound to fail: a removal also fails where nothing can stand at all. And a bind that
fails after its removal does not put back what it has removed.
-/

namespace Beacon

open FileSystem

/-! ## What is left -/

/-- A bind call for a Unix endpoint, alone or by a daemon, with its result and the host after it. -/
inductive BindCall (path : Path) : Host → Except BindError Endpoint → Host → Prop where
  | alone (host : Host) :
      BindCall path host (bindUnix host path).result (bindUnix host path).host
  | daemon (d : Daemon) (htransport : d.config.transport = .unix path) :
      BindCall path d.host d.bind.1 d.bind.2.host

/-- What stands at a path is removed, and then no socket can be made there: the path is too long for
one, or leads past what was removed, or the mode of the socket file cannot be set. -/
def Loses (host : Host) (path : Path) (location : Location) : Prop :=
  ∃ trail, host.files.Removable path location trail ∧
    (107 < path.length ∨ location ∈ trail ∨ host.modeFault? ≠ none)

/-- A failed bind has changed nothing, or has removed what stood at its path. -/
structure SparesTheRest (host : Host) (path : Path) (error : BindError) (after : Host) : Prop where
  spared : (¬ ∃ location, Loses host path location) → after.files = host.files
  lost : ∀ location, Loses host path location → after.files = host.files.erase location
  /-- Nothing is changed if the removal itself fails. -/
  untouched : ∀ fault, error = .staleSocket path fault → after.files = host.files

section

variable {host after : Host} {path : Path} {result : Except BindError Endpoint} {error : BindError}
  {files : FileSystem}

/-- A daemon binds as it is done without one. -/
theorem BindCall.eq (h : BindCall path host result after) :
    result = (bindUnix host path).result ∧ after.files = (bindUnix host path).host.files := by
  cases h with
  | alone => exact ⟨rfl, rfl⟩
  | daemon d htransport =>
      obtain ⟨hresult, hestate, -⟩ := d.bind_keeps
      rw [htransport] at hresult hestate
      have hfiles := congrArg Estate.files hestate
      unfold Daemon.bind
      generalize d.bindUnannounced = bound at hresult hfiles
      obtain ⟨result, bound⟩ := bound
      cases result with
      | error failure => exact ⟨hresult, hfiles⟩
      | ok endpoint =>
          have hannounced := congrArg Estate.files (Daemon.estate_announce bound .bound)
          exact ⟨hresult, hannounced.trans hfiles⟩

/-- What is lost is lost in a row of its own. -/
theorem files_of_loses {location : Location} (h : Loses host path location) :
    (bindUnix host path).host.files = host.files.erase location := by
  obtain ⟨trail, hremovable, hreason⟩ := h
  obtain hlong | hshort := Nat.lt_or_ge maxSocketPath path.length
  · exact (UnixBinding.overlong hremovable hlong).sound.2
  by_cases hmem : location ∈ trail
  · exact (UnixBinding.crossed hremovable hshort hmem).sound.2
  obtain hlong | hcrossed | hmode := hreason
  · exact absurd hlong (Nat.not_lt.mpr hshort)
  · exact absurd hcrossed hmem
  · obtain ⟨fault, hfault⟩ := Option.ne_none_iff_exists'.mp hmode
    obtain ⟨hway, entry, hentry, hdirectory⟩ := hremovable
    have hbindable : host.files.Bindable path location := by
      refine ⟨hshort, ?_, trail, hway, hmem⟩
      rw [hentry]
      exact fun heq => hdirectory (Option.some.inj heq)
    exact (UnixBinding.refused hbindable hfault).sound.2

theorem UnixBinding.spared (h : UnixBinding host path (.error error) files)
    (hnone : ¬ ∃ location, Loses host path location) : files = host.files := by
  cases h with
  | kept | unreachable | nameless | absentOverlong | missing | slash => rfl
  | overlong h hlong => exact absurd ⟨_, _, h, .inl hlong⟩ hnone
  | crossed h _ hmem => exact absurd ⟨_, _, h, .inr (.inl hmem)⟩ hnone
  | @refused location fault h hmode =>
      obtain ⟨-, hdirectory, trail, hway, -⟩ := h
      cases hentry : host.files.entryAt? location with
      | none => exact erase_of_vacant hway.ne_nil hentry
      | some entry =>
          have hremovable : host.files.Removable path location trail :=
            ⟨hway, entry, hentry, fun heq => hdirectory (hentry.trans (congrArg some heq))⟩
          have hfault : host.modeFault? ≠ none := by
            rw [hmode]
            rintro ⟨⟩
          exact absurd ⟨_, _, hremovable, .inr (.inr hfault)⟩ hnone

theorem UnixBinding.untouched {fault : SystemError}
    (h : UnixBinding host path (.error (.staleSocket path fault)) files) : files = host.files := by
  cases h with
  | kept | unreachable => rfl

/-- A failed bind leaves the files as they were, but for what stood at its path, was removed, and is
not put back: it is lost exactly where no socket can be made after the removal. -/
theorem failed_bind_spares_the_rest (h : BindCall path host (.error error) after) :
    SparesTheRest host path error after := by
  obtain ⟨hresult, hfiles⟩ := h.eq
  have hrow := unixBinding host path
  rw [← hresult, ← hfiles] at hrow
  refine ⟨hrow.spared, fun location hloses => hfiles.trans (files_of_loses hloses), ?_⟩
  rintro fault rfl
  exact hrow.untouched

end

def occupied (name : Name) (entry : Entry) : Host :=
  .idle ⟨[([name], entry)], []⟩ true

/-- A directory at the path is spared. -/
theorem directory_is_spared :
    (bindUnix (occupied [0x64] .directory) [0x64]).result =
        .error (.staleSocket [0x64] .isDirectory) ∧
      (bindUnix (occupied [0x64] .directory) [0x64]).host.files =
        (occupied [0x64] .directory).files := by
  have hresult : (bindUnix (occupied [0x64] .directory) [0x64]).result =
      .error (.staleSocket [0x64] .isDirectory) := by
    cbv
  have hcall := @BindCall.alone [0x64] (occupied [0x64] .directory)
  rw [hresult] at hcall
  exact ⟨hresult, (failed_bind_spares_the_rest hcall).untouched _ rfl⟩

/-- A name that is one octet too long for the path of a socket. -/
def overlongName : Name := List.replicate 108 0x61

/-- A file with a name that is too long for a socket is removed by a bind that fails. -/
theorem overlong_bind_removes_file :
    (occupied overlongName (.file [0x62])).files.entryAt? [overlongName] = some (.file [0x62]) ∧
      (bindUnix (occupied overlongName (.file [0x62])) overlongName).result =
        .error (.unix overlongName .socketPathTooLong) ∧
      (bindUnix (occupied overlongName (.file [0x62])) overlongName).host.files.entryAt?
        [overlongName] = none := by
  exact ⟨by cbv, by cbv, by cbv⟩

/-! ## What is told -/

/-- Why no socket can be made at a path once it is cleared. -/
inductive Unmakeable (files : FileSystem) (path : Path) : SystemError → Prop where
  | tooLong (hcleared : files.Absent path ∨ ∃ location trail, files.Removable path location trail)
      (hlong : 107 < path.length) : Unmakeable files path .socketPathTooLong
  | missing (htaken : IsTaken path) (hshort : path.length ≤ 107)
      (hstuck : Stuck files maxLinks (files.start path) (names path).dropLast .noEntry) :
      Unmakeable files path .noEntry
  | slash {directory : Location} {name : Name} {trail : List Location}
      (hends : EndsIn files path directory name trail) (hshort : path.length ≤ 107)
      (hname : IsLookedUp name) (hentry : files.entryAt? (directory ++ [name]) = none)
      (hslash : endsInSlash path = true) : Unmakeable files path .noEntry
  | crossed {location : Location} {trail : List Location}
      (h : files.Removable path location trail) (hshort : path.length ≤ 107)
      (hmem : location ∈ trail) : Unmakeable files path .noEntry

structure TellsTheCall (host : Host) (path : Path) : Prop where
  /-- The removal has failed: something stands at the path that cannot be removed, or nothing can
  stand there. -/
  staleSocket_iff : ∀ named fault,
    (bindUnix host path).result = .error (.staleSocket named fault) ↔
      named = path ∧ (host.files.Kept path fault ∨ host.files.Unreachable path fault)
  unix_iff : ∀ named fault, (bindUnix host path).result = .error (.unix named fault) ↔
    named = path ∧ Unmakeable host.files path fault
  permissions_iff : ∀ named fault,
    (bindUnix host path).result = .error (.permissions named fault) ↔
      named = path ∧ (path = [] ∧ fault = .noEntry ∨
        (∃ location, host.files.Bindable path location) ∧ host.modeFault? = some fault)
  notTcp : ∀ port fault, (bindUnix host path).result ≠ .error (.tcp port fault)
  /-- Where a name is missing, the removal is no failure. -/
  absent : host.files.Absent path → ∀ error, (bindUnix host path).result = .error error →
    ∃ fault, error = .unix path fault ∨ error = .permissions path fault
  /-- Where nothing can stand, nothing is seen either. -/
  unseen : ∀ fault, host.files.Unreachable path fault → host.files.look path = none

section

variable {fs : FileSystem} {path : Path} {fault : SystemError}

theorem look_of_stuck {other : SystemError} (htaken : IsTaken path)
    (hplace : fs.place path = .error fault)
    (hstuck : Stuck fs maxLinks (fs.start path) (names path) other) : fs.look path = none := by
  rw [look, if_neg htaken.hasZero_ne_true]
  split
  next hslash =>
    have hmisses := hstuck.misses
    rw [find, htaken.checkLength]
    generalize fs.resolve true maxLinks (fs.start path) (names path) = spot at hmisses
    cases hmisses with
    | error | vacant => rfl
    | @found location entry hentry =>
        cases entry with
        | directory => exact absurd rfl hentry
        | file content | link target | socket id mode => simp only [hslash, if_true]
  · rw [hplace]

theorem look_of_unreachable (h : fs.Unreachable path fault) : fs.look path = none := by
  cases h with
  | zero hzero => rw [look, if_pos hzero]
  | tooLong hzero hlong =>
      have hlength := checkLength_of_long hlong
      rw [look, if_neg (by rw [hzero]; exact Bool.false_ne_true), find, place, hlength]
      split <;> rfl
  | way htaken hstuck hfault =>
      refine look_of_stuck htaken (place_of_stuck htaken hstuck) (?_ : Stuck _ _ _ _ fault)
      obtain hnil | ⟨parents, name, hnames⟩ := List.eq_nil_or_concat (names path)
      · rw [hnil] at hstuck
        cases hstuck
      · rw [hnames, List.concat_eq_append, List.dropLast_concat] at hstuck
        rw [hnames, List.concat_eq_append]
        exact hstuck.append [name]
  | longName hends hname =>
      have hplace := place_of_endsIn hends
      rw [if_pos hname] at hplace
      refine look_of_stuck hends.taken hplace (?_ : Stuck _ _ _ _ .nameTooLong)
      rw [← List.dropLast_append_getLast? _ hends.last]
      exact hends.walk.stuck_of_tooLong hname

end

/-- A bare name that is too long for a directory is at no place. -/
theorem unreachable_of_long (fs : FileSystem) {name : Name} (hslash : slash ∉ name)
    (hzero : 0 ∉ name) (hlong : maxName < name.length) (hshort : name.length < maxPath) :
    fs.Unreachable name .nameTooLong := by
  have hnonempty : name ≠ [] := by
    rintro rfl
    cases hlong
  have hnames : names name = [name] := names_append (.inl rfl) hnonempty hslash
  have htaken : IsTaken name := by
    refine ⟨?_, hnonempty, hshort⟩
    rw [hasZero, List.contains_eq_mem, decide_eq_false_iff_not]
    exact hzero
  have hends : EndsIn fs name (fs.start name) name [] := by
    refine ⟨htaken, ?_, ?_⟩
    · rw [hnames]
      rfl
    · rw [hnames]
      exact .done _ _
  exact .longName hends hlong

/-- A failed bind tells the system call that has failed. Among the failed removals are those at
paths at which nothing can stand, because they or a name of them are too long, or lead through what
is no directory or through too many links. -/
theorem bind_error_tells_the_call (host : Host) (path : Path) : TellsTheCall host path where
  staleSocket_iff named fault := by
    rw [result_bindUnix_eq_iff]
    constructor
    · rintro ⟨files, hrow⟩
      cases hrow with
      | kept h => exact ⟨rfl, .inl h⟩
      | unreachable h => exact ⟨rfl, .inr h⟩
    · rintro ⟨rfl, h | h⟩
      · exact ⟨_, .kept h⟩
      · exact ⟨_, .unreachable h⟩
  unix_iff named fault := by
    rw [result_bindUnix_eq_iff]
    constructor
    · rintro ⟨files, hrow⟩
      cases hrow with
      | absentOverlong h hlong => exact ⟨rfl, .tooLong (.inl h) hlong⟩
      | missing htaken hshort hstuck => exact ⟨rfl, .missing htaken hshort hstuck⟩
      | slash hends hshort hname hentry hslash =>
          exact ⟨rfl, .slash hends hshort hname hentry hslash⟩
      | overlong h hlong => exact ⟨rfl, .tooLong (.inr ⟨_, _, h⟩) hlong⟩
      | crossed h hshort hmem => exact ⟨rfl, .crossed h hshort hmem⟩
    · rintro ⟨rfl, h⟩
      cases h with
      | tooLong hcleared hlong =>
          obtain h | ⟨location, trail, h⟩ := hcleared
          · exact ⟨_, .absentOverlong h hlong⟩
          · exact ⟨_, .overlong h hlong⟩
      | missing htaken hshort hstuck => exact ⟨_, .missing htaken hshort hstuck⟩
      | slash hends hshort hname hentry hslash =>
          exact ⟨_, .slash hends hshort hname hentry hslash⟩
      | crossed h hshort hmem => exact ⟨_, .crossed h hshort hmem⟩
  permissions_iff named fault := by
    rw [result_bindUnix_eq_iff]
    constructor
    · rintro ⟨files, hrow⟩
      cases hrow with
      | nameless hpath => exact ⟨rfl, .inl ⟨hpath, rfl⟩⟩
      | refused h hmode => exact ⟨rfl, .inr ⟨⟨_, h⟩, hmode⟩⟩
    · rintro ⟨rfl, ⟨hpath, rfl⟩ | ⟨⟨location, h⟩, hmode⟩⟩
      · exact ⟨_, .nameless hpath⟩
      · exact ⟨_, .refused h hmode⟩
  notTcp port fault hresult := by
    obtain ⟨files, hrow⟩ := result_bindUnix_eq_iff.mp hresult
    cases hrow
  absent habsent error hresult := by
    have hunlink := unlink_of_absent habsent
    obtain ⟨files, hrow⟩ := result_bindUnix_eq_iff.mp hresult
    cases hrow with
    | kept h =>
        rw [unlink_of_kept h] at hunlink
        exact absurd (Except.error.inj hunlink) h.ne_noEntry
    | unreachable h =>
        rw [unlink_of_unreachable h] at hunlink
        exact absurd (Except.error.inj hunlink) h.ne_noEntry
    | nameless | refused => exact ⟨_, .inr rfl⟩
    | absentOverlong | missing | slash | overlong | crossed => exact ⟨_, .inl rfl⟩
  unseen _ h := look_of_unreachable h

/-- Where nothing stands, because a name is too long or leads through a file, the error tells of a
stale socket. -/
theorem nothing_is_called_stale :
    (Host.idle ⟨[], []⟩ true).files.look (List.replicate 300 0x61) = none ∧
      (bindUnix (.idle ⟨[], []⟩ true) (List.replicate 300 0x61)).result =
        .error (.staleSocket (List.replicate 300 0x61) .nameTooLong) ∧
      (occupied [0x66] (.file [])).files.look [0x66, 0x2F, 0x78] = none ∧
      (bindUnix (occupied [0x66] (.file [])) [0x66, 0x2F, 0x78]).result =
        .error (.staleSocket [0x66, 0x2F, 0x78] .notDirectory) := by
  have hletter {octet : UInt8} (hne : octet ≠ 0x61) : octet ∉ List.replicate 300 0x61 :=
    fun hmem => hne (List.eq_of_mem_replicate hmem)
  have hlength : (List.replicate 300 (0x61 : UInt8)).length = 300 := List.length_replicate
  have hunreachable : (Host.idle ⟨[], []⟩ true).files.Unreachable (List.replicate 300 0x61)
      .nameTooLong := by
    refine unreachable_of_long _ (hletter (by decide)) (hletter (by decide)) ?_ ?_
    · rw [hlength]
      decide
    · rw [hlength]
      decide
  exact ⟨look_of_unreachable hunreachable, (UnixBinding.unreachable hunreachable).sound.1, by cbv,
    by cbv⟩

end Beacon
