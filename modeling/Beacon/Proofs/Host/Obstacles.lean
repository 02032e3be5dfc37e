import Beacon.Proofs.Host.FileSystem

/-!
# Where paths end

The counterpart of a walk: names that come to an obstacle, with the fault that it makes. Every path
ends in one of four ways: nothing stands at it, something stands there that can be removed or that
cannot, or an obstacle lies before it that is not the lack of a name.
-/

namespace Beacon.FileSystem

/-! ## Obstacles -/

/-- Names that lead to no directory, and the fault of the first obstacle on their way. -/
inductive Stuck (fs : FileSystem) : Nat → Location → List Name → SystemError → Prop where
  | stay {links : Nat} {directory : Location} {rest : List Name} {fault : SystemError}
      (hrest : Stuck fs links directory rest fault) :
      Stuck fs links directory (selfName :: rest) fault
  | up {links : Nat} {directory : Location} {rest : List Name} {fault : SystemError}
      (hrest : Stuck fs links directory.dropLast rest fault) :
      Stuck fs links directory (parentName :: rest) fault
  | enter {links : Nat} {directory : Location} {name : Name} {rest : List Name}
      {fault : SystemError} (hname : IsLookedUp name)
      (hentry : fs.entryAt? (directory ++ [name]) = some .directory)
      (hrest : Stuck fs links (directory ++ [name]) rest fault) :
      Stuck fs links directory (name :: rest) fault
  | follow {links : Nat} {directory : Location} {name : Name} {rest : List Name} {target : Path}
      {fault : SystemError} (hname : IsLookedUp name)
      (hentry : fs.entryAt? (directory ++ [name]) = some (.link target))
      (hrest : Stuck fs links (if isAbsolute target then [] else directory)
        (linkNames target ++ rest) fault) :
      Stuck fs (links + 1) directory (name :: rest) fault
  | tooLong {links : Nat} {directory : Location} {name : Name} {rest : List Name}
      (hname : maxName < name.length) : Stuck fs links directory (name :: rest) .nameTooLong
  | missing {links : Nat} {directory : Location} {name : Name} {rest : List Name}
      (hname : IsLookedUp name) (hentry : fs.entryAt? (directory ++ [name]) = none) :
      Stuck fs links directory (name :: rest) .noEntry
  | file {links : Nat} {directory : Location} {name : Name} {rest : List Name} {entry : Entry}
      (hname : IsLookedUp name) (hentry : fs.entryAt? (directory ++ [name]) = some entry)
      (hdirectory : entry ≠ .directory) (hlink : ∀ target, entry ≠ .link target) :
      Stuck fs links directory (name :: rest) .notDirectory
  | tooManyLinks {directory : Location} {name : Name} {rest : List Name} {target : Path}
      (hname : IsLookedUp name)
      (hentry : fs.entryAt? (directory ++ [name]) = some (.link target)) :
      Stuck fs 0 directory (name :: rest) .tooManyLinks

/-- Names lead to a directory or come to an obstacle. -/
theorem walk_or_stuck (fs : FileSystem) (links : Nat) (directory : Location)
    (names : List Name) :
    (∃ location trail, Walk fs links directory names location trail) ∨
      ∃ fault, Stuck fs links directory names fault := by
  induction links, directory, names using resolve.induct fs true with
  | case1 links directory => exact .inl ⟨_, _, .done links directory⟩
  | case2 links directory name rest hlength => exact .inr ⟨_, .tooLong hlength⟩
  | case3 links directory rest hlength ih =>
      obtain ⟨location, trail, hwalk⟩ | ⟨fault, hstuck⟩ := ih
      · exact .inl ⟨_, _, .stay hwalk⟩
      · exact .inr ⟨_, .stay hstuck⟩
  | case4 links directory rest hlength hself ih =>
      obtain ⟨location, trail, hwalk⟩ | ⟨fault, hstuck⟩ := ih
      · exact .inl ⟨_, _, .up hwalk⟩
      · exact .inr ⟨_, .up hstuck⟩
  | case5 links directory name hlength hself hparent place hentry
  | case6 links directory name rest hlength hself hparent place hentry hrest =>
      exact .inr ⟨_, .missing ⟨Nat.not_lt.mp hlength, hself, hparent⟩ hentry⟩
  | case7 links directory name rest hlength hself hparent place hentry ih =>
      have hname : IsLookedUp name := ⟨Nat.not_lt.mp hlength, hself, hparent⟩
      obtain ⟨location, trail, hwalk⟩ | ⟨fault, hstuck⟩ := ih
      · exact .inl ⟨_, _, .enter hname hentry hwalk⟩
      · exact .inr ⟨_, .enter hname hentry hstuck⟩
  | case8 links directory name rest hlength hself hparent place target hentry hlast =>
      exact absurd rfl hlast.2
  | case9 directory name rest hlength hself hparent place target hentry hlast =>
      exact .inr ⟨_, .tooManyLinks ⟨Nat.not_lt.mp hlength, hself, hparent⟩ hentry⟩
  | case10 directory name rest hlength hself hparent place target hentry hlast links ih =>
      have hname : IsLookedUp name := ⟨Nat.not_lt.mp hlength, hself, hparent⟩
      obtain ⟨location, trail, hwalk⟩ | ⟨fault, hstuck⟩ := ih
      · exact .inl ⟨_, _, .follow hname hentry hwalk⟩
      · exact .inr ⟨_, .follow hname hentry hstuck⟩
  | case11 links directory name hlength hself hparent place entry hdirectory hlink hentry
  | case12 links directory name rest hlength hself hparent place entry hdirectory hlink hentry
      hrest =>
      exact .inr ⟨_, .file ⟨Nat.not_lt.mp hlength, hself, hparent⟩ hentry hdirectory hlink⟩

/-- A resolution that comes to no directory, and the fault of that. -/
inductive Misses : Except SystemError Spot → SystemError → Prop where
  | error (fault : SystemError) : Misses (.error fault) fault
  | vacant (directory : Location) (name : Name) : Misses (.ok (.vacant directory name)) .noEntry
  | found {location : Location} {entry : Entry} (hentry : entry ≠ .directory) :
      Misses (.ok (.found location entry)) .notDirectory

theorem Stuck.misses {fs : FileSystem} {links : Nat} {directory : Location} {names : List Name}
    {fault : SystemError} (h : Stuck fs links directory names fault) :
    Misses (fs.resolve true links directory names) fault := by
  induction h with
  | stay _ ih =>
      rw [resolve_self]
      exact ih
  | up _ ih =>
      rw [resolve_parent]
      exact ih
  | enter hname hentry _ ih =>
      rw [resolve_directory hname hentry]
      exact ih
  | follow hname hentry _ ih =>
      rw [resolve_link hname hentry]
      exact ih
  | tooLong hname =>
      rw [resolve, if_pos hname]
      exact .error _
  | missing hname hentry =>
      rw [resolve, if_neg (Nat.not_lt.mpr hname.1), if_neg hname.2.1, if_neg hname.2.2]
      simp only [hentry]
      split
      · exact .vacant _ _
      · exact .error _
  | @file _ _ _ _ entry hname hentry hdirectory hlink =>
      rw [resolve, if_neg (Nat.not_lt.mpr hname.1), if_neg hname.2.1, if_neg hname.2.2]
      simp only [hentry]
      cases entry with
      | directory => exact absurd rfl hdirectory
      | link target => exact absurd rfl (hlink target)
      | file content
      | socket id mode =>
          split
          · exact .found hdirectory
          · exact .error _
  | tooManyLinks hname hentry =>
      rw [resolve, if_neg (Nat.not_lt.mpr hname.1), if_neg hname.2.1, if_neg hname.2.2]
      simp only [hentry, not_true_eq_false, and_false, if_false]
      exact .error _

theorem resolveParent_of_stuck {fs : FileSystem} {base : Location} {parents : List Name}
    {fault : SystemError} (h : Stuck fs maxLinks base parents fault) :
    fs.resolveParent base parents = .error fault := by
  have hmisses := h.misses
  unfold resolveParent
  generalize fs.resolve true maxLinks base parents = spot at hmisses
  cases hmisses with
  | error fault => rfl
  | vacant directory name => rfl
  | @found location entry hentry =>
      cases entry with
      | directory => exact absurd rfl hentry
      | file content | link target | socket id mode => rfl

/-- Names that come to an obstacle come to it whatever follows them. -/
theorem Stuck.append {fs : FileSystem} {links : Nat} {directory : Location} {names : List Name}
    {fault : SystemError} (h : Stuck fs links directory names fault) (rest : List Name) :
    Stuck fs links directory (names ++ rest) fault := by
  induction h with
  | stay _ ih => exact .stay ih
  | up _ ih => exact .up ih
  | enter hname hentry _ ih => exact .enter hname hentry ih
  | follow hname hentry _ ih =>
      rw [List.append_assoc] at ih
      exact .follow hname hentry ih
  | tooLong hname => exact .tooLong hname
  | missing hname hentry => exact .missing hname hentry
  | file hname hentry hdirectory hlink => exact .file hname hentry hdirectory hlink
  | tooManyLinks hname hentry => exact .tooManyLinks hname hentry

/-- A name that is too long is an obstacle wherever the names before it lead. -/
theorem Walk.stuck_of_tooLong {fs : FileSystem} {links : Nat} {directory location : Location}
    {names : List Name} {trail : List Location} {name : Name}
    (h : Walk fs links directory names location trail) (hname : maxName < name.length) :
    Stuck fs links directory (names ++ [name]) .nameTooLong := by
  induction h with
  | done => exact .tooLong hname
  | stay _ ih => exact .stay ih
  | up _ ih => exact .up ih
  | enter hlooked hentry _ ih => exact .enter hlooked hentry ih
  | follow hlooked hentry _ ih =>
      rw [List.append_assoc] at ih
      exact .follow hlooked hentry ih

/-- Where something is removed that lies on a way, a name of the way is missing. -/
theorem Walk.stuck_erase {fs : FileSystem} {links : Nat} {directory location gone : Location}
    {names : List Name} {trail : List Location} (h : Walk fs links directory names location trail)
    (hmem : gone ∈ trail) (hne : gone ≠ []) :
    Stuck (fs.erase gone) links directory names .noEntry := by
  induction h with
  | done => cases hmem
  | stay _ ih => exact .stay (ih hmem)
  | up _ ih => exact .up (ih hmem)
  | @enter _ directory _ name _ _ hname hentry _ ih =>
      by_cases hhere : directory ++ [name] = gone
      · exact .missing hname (by rw [hhere, entryAt?_erase_self fs hne])
      · rw [← entryAt?_erase_of_ne fs hhere] at hentry
        obtain hmem | hmem := List.mem_cons.mp hmem
        · exact absurd hmem.symm hhere
        · exact .enter hname hentry (ih hmem)
  | @follow _ directory _ name _ _ _ hname hentry _ ih =>
      by_cases hhere : directory ++ [name] = gone
      · exact .missing hname (by rw [hhere, entryAt?_erase_self fs hne])
      · rw [← entryAt?_erase_of_ne fs hhere] at hentry
        obtain hmem | hmem := List.mem_cons.mp hmem
        · exact absurd hmem.symm hhere
        · exact .follow hname hentry (ih hmem)

/-! ## Ends -/

/-- The system takes a path: it is neither empty nor too long, and has no zero octet. -/
structure IsTaken (path : Path) : Prop where
  zero : hasZero path = false
  nonempty : path ≠ []
  short : path.length < maxPath

theorem IsTaken.isEmpty_ne_true {path : Path} (h : IsTaken path) : ¬ path.isEmpty = true :=
  fun hempty => h.nonempty (List.isEmpty_iff.mp hempty)

theorem IsTaken.hasZero_ne_true {path : Path} (h : IsTaken path) : ¬ hasZero path = true := by
  rw [h.zero]
  exact Bool.false_ne_true

theorem IsTaken.checkLength {path : Path} (h : IsTaken path) :
    FileSystem.checkLength path = .ok () := by
  rw [FileSystem.checkLength, if_neg h.isEmpty_ne_true, if_neg (Nat.not_le.mpr h.short)]

theorem checkLength_of_long {path : Path} (h : maxPath ≤ path.length) :
    checkLength path = .error .nameTooLong := by
  have hnonempty : path ≠ [] := by
    rintro rfl
    cases h
  rw [checkLength, if_neg fun hempty => hnonempty (List.isEmpty_iff.mp hempty), if_pos h]

/-- A path ends with a name in a directory, to which its other names lead past a trail. -/
structure EndsIn (fs : FileSystem) (path : Path) (directory : Location) (name : Name)
    (trail : List Location) : Prop where
  taken : IsTaken path
  last : (names path).getLast? = some name
  walk : Walk fs maxLinks (fs.start path) (names path).dropLast directory trail

/-- An entry can be made or removed at a location by a path that leads there past a trail. -/
structure Way (fs : FileSystem) (path : Path) (location : Location) (trail : List Location) :
    Prop where
  noSlash : endsInSlash path = false
  ends : ∃ directory name, EndsIn fs path directory name trail ∧ IsLookedUp name ∧
    location = directory ++ [name]

/-- Nothing stands at a path, because its last name or one on the way is missing. -/
inductive Absent (fs : FileSystem) (path : Path) : Prop where
  | empty (hpath : path = [])
  | way (htaken : IsTaken path)
      (hstuck : Stuck fs maxLinks (fs.start path) (names path).dropLast .noEntry)
  | vacant {directory : Location} {name : Name} {trail : List Location}
      (hends : EndsIn fs path directory name trail) (hname : IsLookedUp name)
      (hentry : fs.entryAt? (directory ++ [name]) = none)

/-- Nothing can stand at a path, for another reason than that a name is missing. -/
inductive Unreachable (fs : FileSystem) (path : Path) : SystemError → Prop where
  | zero (hzero : hasZero path = true) : Unreachable fs path .zeroInPath
  | tooLong (hzero : hasZero path = false) (hlong : maxPath ≤ path.length) :
      Unreachable fs path .nameTooLong
  | way {fault : SystemError} (htaken : IsTaken path)
      (hstuck : Stuck fs maxLinks (fs.start path) (names path).dropLast fault)
      (hfault : fault ≠ .noEntry) : Unreachable fs path fault
  | longName {directory : Location} {name : Name} {trail : List Location}
      (hends : EndsIn fs path directory name trail) (hname : maxName < name.length) :
      Unreachable fs path .nameTooLong

/-- Something stands at a path that cannot be removed: a directory, or what has a slash after its
name. -/
inductive Kept (fs : FileSystem) (path : Path) : SystemError → Prop where
  | root (htaken : IsTaken path) (hnames : names path = []) : Kept fs path .isDirectory
  | dots {directory : Location} {name : Name} {trail : List Location}
      (hends : EndsIn fs path directory name trail)
      (hname : name = selfName ∨ name = parentName) : Kept fs path .isDirectory
  | directory {directory : Location} {name : Name} {trail : List Location}
      (hends : EndsIn fs path directory name trail) (hname : IsLookedUp name)
      (hentry : fs.entryAt? (directory ++ [name]) = some .directory) : Kept fs path .isDirectory
  | slash {directory : Location} {name : Name} {trail : List Location} {entry : Entry}
      (hends : EndsIn fs path directory name trail) (hname : IsLookedUp name)
      (hentry : fs.entryAt? (directory ++ [name]) = some entry) (hdirectory : entry ≠ .directory)
      (hslash : endsInSlash path = true) : Kept fs path .notDirectory

/-- Something stands at a path that can be removed. -/
def Removable (fs : FileSystem) (path : Path) (location : Location)
    (trail : List Location) : Prop :=
  fs.Way path location trail ∧ ∃ entry, fs.entryAt? location = some entry ∧ entry ≠ .directory

/-- Every path ends in one of four ways. -/
theorem absent_or_unreachable_or_kept_or_removable (fs : FileSystem) (path : Path) :
    fs.Absent path ∨ (∃ fault, fs.Unreachable path fault) ∨ (∃ fault, fs.Kept path fault) ∨
      ∃ location trail, fs.Removable path location trail := by
  by_cases hempty : path = []
  · exact .inl (.empty hempty)
  cases hzero : hasZero path with
  | true => exact .inr (.inl ⟨_, .zero hzero⟩)
  | false =>
  by_cases hlong : maxPath ≤ path.length
  · exact .inr (.inl ⟨_, .tooLong hzero hlong⟩)
  have htaken : IsTaken path := ⟨hzero, hempty, Nat.not_le.mp hlong⟩
  cases hlast : (names path).getLast? with
  | none => exact .inr (.inr (.inl ⟨_, .root htaken (List.getLast?_eq_none_iff.mp hlast)⟩))
  | some name =>
  obtain ⟨directory, trail, hwalk⟩ | ⟨fault, hstuck⟩ :=
    walk_or_stuck fs maxLinks (fs.start path) (names path).dropLast
  · have hends : EndsIn fs path directory name trail := ⟨htaken, hlast, hwalk⟩
    by_cases hname : maxName < name.length
    · exact .inr (.inl ⟨_, .longName hends hname⟩)
    by_cases hdots : name = selfName ∨ name = parentName
    · exact .inr (.inr (.inl ⟨_, .dots hends hdots⟩))
    have hlooked : IsLookedUp name :=
      ⟨Nat.not_lt.mp hname, fun hself => hdots (.inl hself), fun hup => hdots (.inr hup)⟩
    cases hentry : fs.entryAt? (directory ++ [name]) with
    | none => exact .inl (.vacant hends hlooked hentry)
    | some entry =>
        by_cases hdirectory : entry = .directory
        · subst hdirectory
          exact .inr (.inr (.inl ⟨_, .directory hends hlooked hentry⟩))
        · cases hslash : endsInSlash path with
          | true => exact .inr (.inr (.inl ⟨_, .slash hends hlooked hentry hdirectory hslash⟩))
          | false =>
              exact .inr (.inr (.inr ⟨_, trail,
                ⟨hslash, _, _, hends, hlooked, rfl⟩, entry, hentry, hdirectory⟩))
  · by_cases hfault : fault = .noEntry
    · subst hfault
      exact .inl (.way htaken hstuck)
    · exact .inr (.inl ⟨_, .way htaken hstuck hfault⟩)

section

variable {fs : FileSystem} {path : Path} {directory location : Location} {name : Name}
  {trail : List Location} {fault : SystemError}

theorem leadsTo_iff_way : fs.LeadsTo path location ↔ ∃ trail, fs.Way path location trail := by
  constructor
  · rintro ⟨hzero, hslash, directory, name, hplace, rfl⟩
    obtain ⟨hlength, hlast, hname, trail, hwalk⟩ := place_eq_named_iff.mp hplace
    have hnonempty : path ≠ [] := by
      rintro rfl
      cases hlength
    have hshort : path.length < maxPath := by
      rw [checkLength, if_neg fun hempty => hnonempty (List.isEmpty_iff.mp hempty)] at hlength
      split at hlength
      · cases hlength
      next hshort => exact Nat.not_le.mp hshort
    exact ⟨trail, hslash, directory, name, ⟨⟨hzero, hnonempty, hshort⟩, hlast, hwalk⟩, hname, rfl⟩
  · rintro ⟨trail, hslash, directory, name, hends, hname, rfl⟩
    exact ⟨hends.taken.zero, hslash, directory, name,
      place_eq_named_iff.mpr ⟨hends.taken.checkLength, hends.last, hname, trail, hends.walk⟩, rfl⟩

theorem Absent.zero (h : fs.Absent path) : hasZero path = false := by
  cases h with
  | empty hpath =>
      subst hpath
      rfl
  | way htaken => exact htaken.zero
  | vacant hends => exact hends.taken.zero

/-! ## Places -/

theorem place_of_stuck (htaken : IsTaken path)
    (h : Stuck fs maxLinks (fs.start path) (names path).dropLast fault) :
    fs.place path = .error fault := by
  rw [place, htaken.checkLength]
  cases hlast : (names path).getLast? with
  | none =>
      rw [List.getLast?_eq_none_iff.mp hlast] at h
      cases h
  | some name => simp only [resolveParent_of_stuck h]

theorem place_of_endsIn (h : EndsIn fs path directory name trail) :
    fs.place path =
      if maxName < name.length then .error .nameTooLong
      else if name = selfName then .ok (.special directory)
      else if name = parentName then .ok (.special directory.dropLast)
      else .ok (.named directory name) := by
  rw [place, h.taken.checkLength]
  simp only [h.last, resolveParent_eq_ok_iff.mpr ⟨trail, h.walk⟩]

theorem EndsIn.named (h : EndsIn fs path directory name trail) (hname : IsLookedUp name) :
    fs.place path = .ok (.named directory name) := by
  rw [place_of_endsIn h, if_neg (Nat.not_lt.mpr hname.1), if_neg hname.2.1, if_neg hname.2.2]

/-! ## Removing -/

theorem unlink_of_absent (h : fs.Absent path) : fs.unlink path = .error .noEntry := by
  cases h with
  | empty hpath =>
      subst hpath
      rfl
  | way htaken hstuck =>
      rw [unlink, htaken.zero, place_of_stuck htaken hstuck]
      rfl
  | vacant hends hname hentry =>
      rw [unlink, hends.taken.zero, hends.named hname]
      simp only [Bool.false_eq_true, if_false, hentry]

theorem unlink_of_unreachable (h : fs.Unreachable path fault) :
    fs.unlink path = .error fault := by
  cases h with
  | zero hzero => rw [unlink, if_pos hzero]
  | tooLong hzero hlong =>
      rw [unlink, hzero, place, checkLength_of_long hlong]
      rfl
  | way htaken hstuck =>
      rw [unlink, htaken.zero, place_of_stuck htaken hstuck]
      rfl
  | longName hends hname =>
      rw [unlink, hends.taken.zero, place_of_endsIn hends, if_pos hname]
      rfl

theorem unlink_of_kept (h : fs.Kept path fault) : fs.unlink path = .error fault := by
  cases h with
  | root htaken hnames =>
      rw [unlink, htaken.zero, place, htaken.checkLength, hnames]
      rfl
  | dots hends hname =>
      rw [unlink, hends.taken.zero, place_of_endsIn hends]
      obtain rfl | rfl := hname
      · rfl
      · rfl
  | directory hends hname hentry =>
      rw [unlink, hends.taken.zero, hends.named hname]
      simp only [Bool.false_eq_true, if_false, hentry]
  | @slash _ _ _ entry hends hname hentry hdirectory hslash =>
      rw [unlink, hends.taken.zero, hends.named hname]
      cases entry with
      | directory => exact absurd rfl hdirectory
      | file content | link target | socket id mode =>
          simp only [Bool.false_eq_true, if_false, hentry, hslash, if_true]

theorem Unreachable.ne_noEntry (h : fs.Unreachable path fault) : fault ≠ .noEntry := by
  cases h with
  | way _ _ hfault => exact hfault
  | zero | tooLong | longName => decide

theorem Kept.ne_noEntry (h : fs.Kept path fault) : fault ≠ .noEntry := by
  cases h with
  | root | dots | directory | slash => decide

/-! ## Making sockets -/

theorem IsTaken.of_short (hzero : hasZero path = false) (hnonempty : path ≠ [])
    (hshort : path.length ≤ maxSocketPath) : IsTaken path :=
  ⟨hzero, hnonempty, Nat.lt_of_le_of_lt hshort (by decide)⟩

theorem bindSocket_of_long (id : Nat) (hzero : hasZero path = false)
    (hlong : maxSocketPath < path.length) : fs.bindSocket id path = .error .socketPathTooLong := by
  have hnonempty : path ≠ [] := by
    rintro rfl
    cases hlong
  rw [bindSocket, if_neg fun hempty => hnonempty (List.isEmpty_iff.mp hempty),
    if_neg (by rw [hzero]; exact Bool.false_ne_true), if_pos hlong]

theorem bindSocket_of_stuck (id : Nat) (htaken : IsTaken path)
    (hshort : path.length ≤ maxSocketPath)
    (h : Stuck fs maxLinks (fs.start path) (names path).dropLast fault) :
    fs.bindSocket id path = .error fault := by
  rw [bindSocket, if_neg htaken.isEmpty_ne_true, if_neg htaken.hasZero_ne_true,
    if_neg (Nat.not_lt.mpr hshort), place_of_stuck htaken h]

/-- Where nothing stands in a directory, a socket file is made, unless a slash asks for more. -/
theorem bindSocket_of_vacant (id : Nat) (hends : EndsIn fs path directory name trail)
    (hshort : path.length ≤ maxSocketPath) (hname : IsLookedUp name)
    (hentry : fs.entryAt? (directory ++ [name]) = none) :
    fs.bindSocket id path =
      if endsInSlash path then .error .noEntry
      else .ok (fs.insert (directory ++ [name]) (.socket id freshMode)) := by
  rw [bindSocket, if_neg hends.taken.isEmpty_ne_true, if_neg hends.taken.hasZero_ne_true,
    if_neg (Nat.not_lt.mpr hshort), hends.named hname]
  simp only [hentry]

theorem bindSocket_of_slash (id : Nat) (hends : EndsIn fs path directory name trail)
    (hshort : path.length ≤ maxSocketPath) (hname : IsLookedUp name)
    (hentry : fs.entryAt? (directory ++ [name]) = none) (hslash : endsInSlash path = true) :
    fs.bindSocket id path = .error .noEntry := by
  rw [bindSocket_of_vacant id hends hshort hname hentry, if_pos hslash]

theorem bindSocket_of_way (id : Nat) (h : fs.Way path location trail)
    (hshort : path.length ≤ maxSocketPath) (hentry : fs.entryAt? location = none) :
    fs.bindSocket id path = .ok (fs.insert location (.socket id freshMode)) := by
  obtain ⟨hslash, directory, name, hends, hname, rfl⟩ := h
  rw [bindSocket_of_vacant id hends hshort hname hentry, hslash]
  rfl

/-! ## Ways after a removal -/

theorem Way.ne_nil (h : fs.Way path location trail) : location ≠ [] := by
  obtain ⟨-, directory, name, -, -, rfl⟩ := h
  simp

theorem Way.taken (h : fs.Way path location trail) : IsTaken path := by
  obtain ⟨-, directory, name, hends, -, -⟩ := h
  exact hends.taken

/-- A way stays where its end is removed, unless it leads past it. -/
theorem Way.of_erase (h : fs.Way path location trail) (hmem : location ∉ trail) :
    (fs.erase location).Way path location trail := by
  obtain ⟨hslash, directory, name, ⟨htaken, hlast, hwalk⟩, hname, rfl⟩ := h
  refine ⟨hslash, directory, name, ⟨htaken, hlast, hwalk.of_trail fun passed hpassed => ?_⟩, hname,
    rfl⟩
  refine entryAt?_erase_of_ne fs ?_
  rintro rfl
  exact hmem hpassed

/-- A way that leads past its own end is cut off where that is removed. -/
theorem Way.stuck_erase (h : fs.Way path location trail) (hmem : location ∈ trail) :
    Stuck (fs.erase location) maxLinks ((fs.erase location).start path) (names path).dropLast
      .noEntry := by
  obtain ⟨-, directory, name, hends, -, rfl⟩ := h
  exact hends.walk.stuck_erase hmem (by simp)

/-- A socket file can be made at a location by a path once what stands there is removed. -/
def Bindable (fs : FileSystem) (path : Path) (location : Location) : Prop :=
  path.length ≤ maxSocketPath ∧ fs.entryAt? location ≠ some .directory ∧
    ∃ trail, fs.Way path location trail ∧ location ∉ trail

end

end Beacon.FileSystem
