import Beacon.Host.FileSystem
import Mathlib.Data.List.Basic

/-!
# Where paths lead

The resolution of the directories of a path as a relation that tells what stands on the way, and
what follows for the place of a path when something else in the file system changes.
-/

namespace Beacon.FileSystem

/-! ## Walks -/

def IsLookedUp (name : Name) : Prop :=
  name.length ≤ maxName ∧ name ≠ selfName ∧ name ≠ parentName

/-- Names lead from a directory to a directory, past the entries of a trail: directories that are
entered and links that are followed. -/
inductive Walk (fs : FileSystem) :
    Nat → Location → List Name → Location → List Location → Prop where
  | done (links : Nat) (directory : Location) : Walk fs links directory [] directory []
  | stay {links : Nat} {directory location : Location} {rest : List Name}
      {trail : List Location} (hrest : Walk fs links directory rest location trail) :
      Walk fs links directory (selfName :: rest) location trail
  | up {links : Nat} {directory location : Location} {rest : List Name} {trail : List Location}
      (hrest : Walk fs links directory.dropLast rest location trail) :
      Walk fs links directory (parentName :: rest) location trail
  | enter {links : Nat} {directory location : Location} {name : Name} {rest : List Name}
      {trail : List Location} (hname : IsLookedUp name)
      (hentry : fs.entryAt? (directory ++ [name]) = some .directory)
      (hrest : Walk fs links (directory ++ [name]) rest location trail) :
      Walk fs links directory (name :: rest) location ((directory ++ [name]) :: trail)
  | follow {links : Nat} {directory location : Location} {name : Name} {rest : List Name}
      {target : Path} {trail : List Location} (hname : IsLookedUp name)
      (hentry : fs.entryAt? (directory ++ [name]) = some (.link target))
      (hrest : Walk fs links (if isAbsolute target then [] else directory)
        (linkNames target ++ rest) location trail) :
      Walk fs (links + 1) directory (name :: rest) location ((directory ++ [name]) :: trail)

theorem resolve_nil (fs : FileSystem) (follow : Bool) (links : Nat) (directory : Location) :
    fs.resolve follow links directory [] = .ok (.found directory .directory) := by
  rw [resolve]

theorem resolve_self (fs : FileSystem) (follow : Bool) (links : Nat) (directory : Location)
    (rest : List Name) :
    fs.resolve follow links directory (selfName :: rest) =
      fs.resolve follow links directory rest := by
  rw [resolve, if_neg (by decide), if_pos rfl]

theorem resolve_parent (fs : FileSystem) (follow : Bool) (links : Nat) (directory : Location)
    (rest : List Name) :
    fs.resolve follow links directory (parentName :: rest) =
      fs.resolve follow links directory.dropLast rest := by
  rw [resolve, if_neg (by decide), if_neg (by decide), if_pos rfl]

section

variable {fs : FileSystem} {follow : Bool} {links : Nat} {directory : Location} {name : Name}

theorem resolve_directory (hname : IsLookedUp name)
    (hentry : fs.entryAt? (directory ++ [name]) = some .directory) (rest : List Name) :
    fs.resolve follow links directory (name :: rest) =
      fs.resolve follow links (directory ++ [name]) rest := by
  rw [resolve, if_neg (Nat.not_lt.mpr hname.1), if_neg hname.2.1, if_neg hname.2.2]
  simp only [hentry]

theorem resolve_link (hname : IsLookedUp name) {target : Path}
    (hentry : fs.entryAt? (directory ++ [name]) = some (.link target)) (rest : List Name) :
    fs.resolve true (links + 1) directory (name :: rest) =
      fs.resolve true links (if isAbsolute target then [] else directory)
        (linkNames target ++ rest) := by
  rw [resolve, if_neg (Nat.not_lt.mpr hname.1), if_neg hname.2.1, if_neg hname.2.2]
  simp only [hentry, not_true_eq_false, and_false, if_false]

/-- A last name at which a socket stands leads to it. -/
theorem resolve_socket (hname : IsLookedUp name) {id mode : Nat}
    (hentry : fs.entryAt? (directory ++ [name]) = some (.socket id mode)) :
    fs.resolve follow links directory [name] =
      .ok (.found (directory ++ [name]) (.socket id mode)) := by
  rw [resolve, if_neg (Nat.not_lt.mpr hname.1), if_neg hname.2.1, if_neg hname.2.2]
  simp only [hentry, if_pos]

end

/-- Names that are resolved to a directory lead there. -/
theorem walk_of_resolve {fs : FileSystem} {links : Nat} {directory location : Location}
    {names : List Name}
    (h : fs.resolve true links directory names = .ok (.found location .directory)) :
    ∃ trail, Walk fs links directory names location trail := by
  induction links, directory, names using resolve.induct fs true with
  | case1 links directory =>
      rw [resolve_nil] at h
      cases h
      exact ⟨[], .done links location⟩
  | case2 links directory name rest hlength =>
      rw [resolve, if_pos hlength] at h
      cases h
  | case3 links directory rest hlength ih =>
      rw [resolve_self] at h
      obtain ⟨trail, hrest⟩ := ih h
      exact ⟨trail, .stay hrest⟩
  | case4 links directory rest hlength hself ih =>
      rw [resolve_parent] at h
      obtain ⟨trail, hrest⟩ := ih h
      exact ⟨trail, .up hrest⟩
  | case5 links directory name hlength hself hparent place hentry =>
      rw [resolve, if_neg hlength, if_neg hself, if_neg hparent] at h
      simp only [show fs.entryAt? (directory ++ [name]) = none from hentry] at h
      cases h
  | case6 links directory name rest hlength hself hparent place hentry hrest =>
      rw [resolve, if_neg hlength, if_neg hself, if_neg hparent] at h
      simp only [show fs.entryAt? (directory ++ [name]) = none from hentry, if_neg hrest] at h
      cases h
  | case7 links directory name rest hlength hself hparent place hentry ih =>
      have hname : IsLookedUp name := ⟨Nat.not_lt.mp hlength, hself, hparent⟩
      rw [resolve_directory hname hentry] at h
      obtain ⟨trail, hrest⟩ := ih h
      exact ⟨_, .enter hname hentry hrest⟩
  | case8 links directory name rest hlength hself hparent place target hentry hlast =>
      exact absurd hlast.2 (by simp)
  | case9 directory name rest hlength hself hparent place target hentry hlast =>
      rw [resolve, if_neg hlength, if_neg hself, if_neg hparent] at h
      simp only [show fs.entryAt? (directory ++ [name]) = some (.link target) from hentry,
        not_true_eq_false, and_false, if_false] at h
      cases h
  | case10 directory name rest hlength hself hparent place target hentry hlast links ih =>
      have hname : IsLookedUp name := ⟨Nat.not_lt.mp hlength, hself, hparent⟩
      rw [resolve_link hname hentry] at h
      obtain ⟨trail, hrest⟩ := ih h
      exact ⟨_, .follow hname hentry hrest⟩
  | case11 links directory name hlength hself hparent place entry hdirectory hlink hentry =>
      rw [resolve, if_neg hlength, if_neg hself, if_neg hparent] at h
      simp only [show fs.entryAt? (directory ++ [name]) = some entry from hentry] at h
      cases entry with
      | directory => exact absurd rfl hdirectory
      | link target => exact absurd rfl (hlink target)
      | file content => cases h
      | socket id mode => cases h
  | case12 links directory name rest hlength hself hparent place entry hdirectory hlink hentry
      hrest =>
      rw [resolve, if_neg hlength, if_neg hself, if_neg hparent] at h
      simp only [show fs.entryAt? (directory ++ [name]) = some entry from hentry] at h
      cases entry with
      | directory => exact absurd rfl hdirectory
      | link target => exact absurd rfl (hlink target)
      | file content =>
          simp only [if_neg hrest] at h
          cases h
      | socket id mode =>
          simp only [if_neg hrest] at h
          cases h

namespace Walk

variable {fs fs' : FileSystem} {links : Nat} {directory location : Location} {names : List Name}
  {trail : List Location}

/-- What follows the names of a walk is resolved where the walk ends. -/
theorem resolve_append (h : Walk fs links directory names location trail) (rest : List Name) :
    ∃ left, fs.resolve true links directory (names ++ rest) =
      fs.resolve true left location rest := by
  induction h with
  | done links directory => exact ⟨links, rfl⟩
  | stay _ ih =>
      rw [List.cons_append, resolve_self]
      exact ih
  | up _ ih =>
      rw [List.cons_append, resolve_parent]
      exact ih
  | enter hname hentry _ ih =>
      rw [List.cons_append, resolve_directory hname hentry]
      exact ih
  | follow hname hentry _ ih =>
      rw [List.cons_append, resolve_link hname hentry]
      rw [List.append_assoc] at ih
      exact ih

/-- The names of a walk are resolved to where it ends. -/
theorem resolve_eq (h : Walk fs links directory names location trail) :
    fs.resolve true links directory names = .ok (.found location .directory) := by
  obtain ⟨left, hleft⟩ := h.resolve_append []
  rw [List.append_nil] at hleft
  rw [hleft, resolve_nil]

/-- On the way of a walk stand directories and links alone. -/
theorem entryAt?_of_mem_trail (h : Walk fs links directory names location trail)
    {passed : Location} (hmem : passed ∈ trail) :
    fs.entryAt? passed = some .directory ∨ ∃ target, fs.entryAt? passed = some (.link target) := by
  induction h with
  | done => cases hmem
  | stay _ ih => exact ih hmem
  | up _ ih => exact ih hmem
  | enter _ hentry _ ih =>
      obtain rfl | hmem := List.mem_cons.mp hmem
      · exact .inl hentry
      · exact ih hmem
  | follow _ hentry _ ih =>
      obtain rfl | hmem := List.mem_cons.mp hmem
      · exact .inr ⟨_, hentry⟩
      · exact ih hmem

/-- A walk depends on its trail alone. -/
theorem of_trail (h : Walk fs links directory names location trail)
    (htrail : ∀ passed ∈ trail, fs'.entryAt? passed = fs.entryAt? passed) :
    Walk fs' links directory names location trail := by
  induction h with
  | done links directory => exact .done links directory
  | stay _ ih => exact .stay (ih htrail)
  | up _ ih => exact .up (ih htrail)
  | enter hname hentry _ ih =>
      refine .enter hname ?_ (ih fun passed hmem => htrail passed (List.mem_cons_of_mem _ hmem))
      rw [htrail _ List.mem_cons_self, hentry]
  | follow hname hentry _ ih =>
      refine .follow hname ?_ (ih fun passed hmem => htrail passed (List.mem_cons_of_mem _ hmem))
      rw [htrail _ List.mem_cons_self, hentry]

end Walk

/-! ## Places -/

theorem resolveParent_eq_ok_iff {fs : FileSystem} {base directory : Location}
    {parents : List Name} :
    fs.resolveParent base parents = .ok directory ↔
      ∃ trail, Walk fs maxLinks base parents directory trail := by
  constructor
  · intro h
    unfold resolveParent at h
    split at h
    · cases h
    · cases h
    next location hresolve =>
      cases h
      exact walk_of_resolve hresolve
    · cases h
  · rintro ⟨trail, hwalk⟩
    rw [resolveParent, hwalk.resolve_eq]

/-- The place of a path is a name in the directory that the other names lead to. -/
theorem place_eq_named_iff {fs : FileSystem} {path : Path} {directory : Location} {name : Name} :
    fs.place path = .ok (.named directory name) ↔
      checkLength path = .ok () ∧ (names path).getLast? = some name ∧ IsLookedUp name ∧
        ∃ trail, Walk fs maxLinks (fs.start path) (names path).dropLast directory trail := by
  constructor
  · intro h
    unfold place at h
    split at h
    · cases h
    next hlength =>
      split at h
      · cases h
      next last hlast =>
        split at h
        · cases h
        next parent hparent =>
          split at h
          · cases h
          next hlong =>
            split at h
            · cases h
            next hself =>
              split at h
              · cases h
              next hup =>
                cases h
                exact ⟨hlength, hlast, ⟨Nat.not_lt.mp hlong, hself, hup⟩,
                  resolveParent_eq_ok_iff.mp hparent⟩
  · rintro ⟨hlength, hlast, hname, htrail⟩
    unfold place
    simp only [hlength, hlast, resolveParent_eq_ok_iff.mpr htrail]
    rw [if_neg (Nat.not_lt.mpr hname.1), if_neg hname.2.1, if_neg hname.2.2]

/-- A path leads to a location if an entry can be made or removed there by the path: the last name
of the path is looked up there, and no directory is asked for. -/
def LeadsTo (fs : FileSystem) (path : Path) (location : Location) : Prop :=
  hasZero path = false ∧ endsInSlash path = false ∧
    ∃ directory name, fs.place path = .ok (.named directory name) ∧
      location = directory ++ [name]

def Holds (fs : FileSystem) (path : Path) (entry : Entry) : Prop :=
  ∃ location, fs.LeadsTo path location ∧ fs.entryAt? location = some entry

/-- No entry stands at a path, but one can be made there. -/
def IsVacant (fs : FileSystem) (path : Path) : Prop :=
  ∃ location, fs.LeadsTo path location ∧ fs.entryAt? location = none

/-- Nothing that a path depends on has changed: neither the directory in which it starts, nor the
entries on its way, nor the one at its end. -/
def Untouched (fs fs' : FileSystem) (path : Path) : Prop :=
  fs'.start path = fs.start path ∧
    ∀ directory name trail,
      Walk fs maxLinks (fs.start path) (names path).dropLast directory trail →
      (names path).getLast? = some name →
      ∀ location ∈ trail ++ [directory ++ [name]], fs'.entryAt? location = fs.entryAt? location

/-- The directories and the links of a file system are there in another one, which has the same
working directory. -/
def KeepsWays (fs fs' : FileSystem) : Prop :=
  fs'.current = fs.current ∧
    ∀ location, (fs.entryAt? location = some .directory ∨
      ∃ target, fs.entryAt? location = some (.link target)) →
      fs'.entryAt? location = fs.entryAt? location

theorem KeepsWays.start {fs fs' : FileSystem} (h : KeepsWays fs fs') (path : Path) :
    fs'.start path = fs.start path := by
  rw [FileSystem.start, FileSystem.start, h.1]

namespace LeadsTo

variable {fs fs' : FileSystem} {path : Path} {location other : Location}

/-- A path leads to one location. -/
theorem unique (h : fs.LeadsTo path location) (h' : fs.LeadsTo path other) :
    location = other := by
  obtain ⟨-, -, directory, name, hplace, rfl⟩ := h
  obtain ⟨-, -, directory', name', hplace', rfl⟩ := h'
  rw [hplace] at hplace'
  cases hplace'
  rfl

theorem ne_nil (h : fs.LeadsTo path location) : location ≠ [] := by
  obtain ⟨-, -, directory, name, -, rfl⟩ := h
  simp

/-- A path leads where it did as long as the ways are kept. -/
theorem of_keepsWays (h : fs.LeadsTo path location) (hkeeps : KeepsWays fs fs') :
    fs'.LeadsTo path location := by
  obtain ⟨hzero, hslash, directory, name, hplace, rfl⟩ := h
  rw [place_eq_named_iff] at hplace
  obtain ⟨hlength, hlast, hname, trail, hwalk⟩ := hplace
  refine ⟨hzero, hslash, directory, name, ?_, rfl⟩
  rw [place_eq_named_iff, hkeeps.start]
  exact ⟨hlength, hlast, hname, trail,
    hwalk.of_trail fun passed hmem => hkeeps.2 passed (hwalk.entryAt?_of_mem_trail hmem)⟩

/-- A path that is untouched leads where it did, to the entry that stood there. -/
theorem of_untouched (h : fs.LeadsTo path location) (huntouched : fs.Untouched fs' path) :
    fs'.LeadsTo path location ∧ fs'.entryAt? location = fs.entryAt? location := by
  obtain ⟨hzero, hslash, directory, name, hplace, rfl⟩ := h
  rw [place_eq_named_iff] at hplace
  obtain ⟨hlength, hlast, hname, trail, hwalk⟩ := hplace
  have hsame := huntouched.2 directory name trail hwalk hlast
  refine ⟨⟨hzero, hslash, directory, name, ?_, rfl⟩, hsame _ (by simp)⟩
  rw [place_eq_named_iff, huntouched.1]
  exact ⟨hlength, hlast, hname, trail,
    hwalk.of_trail fun passed hmem => hsame passed (List.mem_append_left _ hmem)⟩

/-- A path that leads to a socket file finds it. -/
theorem find_socket {id mode : Nat} (h : fs.LeadsTo path location)
    (hentry : fs.entryAt? location = some (.socket id mode)) :
    fs.find path = .ok (.found location (.socket id mode)) := by
  obtain ⟨hzero, hslash, directory, name, hplace, rfl⟩ := h
  rw [place_eq_named_iff] at hplace
  obtain ⟨hlength, hlast, hname, trail, hwalk⟩ := hplace
  obtain ⟨left, hleft⟩ := hwalk.resolve_append [name]
  have hnames : (names path).dropLast ++ [name] = names path :=
    List.dropLast_append_getLast? name hlast
  rw [hnames, resolve_socket hname hentry] at hleft
  rw [find, hlength]
  simp only [hleft, hslash, Bool.false_eq_true, if_false]

end LeadsTo

/-- An entry stays at a path that is untouched. -/
theorem Holds.of_untouched {fs fs' : FileSystem} {path : Path} {entry : Entry}
    (h : fs.Holds path entry) (huntouched : fs.Untouched fs' path) : fs'.Holds path entry := by
  obtain ⟨location, hleads, hentry⟩ := h
  obtain ⟨hleads', hsame⟩ := hleads.of_untouched huntouched
  exact ⟨location, hleads', hsame.trans hentry⟩

/-! ## What changes keep the ways -/

variable {fs : FileSystem} {location : Location}

/-- Removing a socket file keeps the ways. -/
theorem keepsWays_erase {id mode : Nat} (hentry : fs.entryAt? location = some (.socket id mode)) :
    KeepsWays fs (fs.erase location) := by
  refine ⟨rfl, fun other hway => entryAt?_erase_of_ne fs ?_⟩
  rintro rfl
  rw [hentry] at hway
  obtain hway | ⟨target, hway⟩ := hway
  · cases hway
  · cases hway

/-- What is left after something was removed was there before. -/
theorem entryAt?_of_erase {other : Location} {entry : Entry} (hne : location ≠ [])
    (h : (fs.erase location).entryAt? other = some entry) : fs.entryAt? other = some entry := by
  rw [entryAt?_erase_of_ne fs] at h
  · exact h
  · rintro rfl
    rw [entryAt?_erase_self fs hne] at h
    cases h

/-- Nothing is a way in the rest of a file system that is none in the whole. -/
theorem keepsWays_of_erase (fs : FileSystem) {location : Location} (h : location ≠ []) :
    KeepsWays (fs.erase location) fs := by
  refine ⟨rfl, fun other hway => (entryAt?_erase_of_ne fs ?_).symm⟩
  rintro rfl
  rw [entryAt?_erase_self fs h] at hway
  obtain hway | ⟨target, hway⟩ := hway
  · cases hway
  · cases hway

/-- Putting something where nothing stands keeps the ways. -/
theorem keepsWays_insert (hentry : fs.entryAt? location = none) (entry : Entry) :
    KeepsWays fs (fs.insert location entry) := by
  refine ⟨rfl, fun other hway => entryAt?_insert_of_ne fs entry ?_⟩
  rintro rfl
  rw [hentry] at hway
  obtain hway | ⟨target, hway⟩ := hway
  · cases hway
  · cases hway

/-! ## Removing and putting at one place -/

/-- Where nothing stands, nothing is removed. -/
theorem erase_of_vacant (hne : location ≠ []) (hentry : fs.entryAt? location = none) :
    fs.erase location = fs := by
  rw [entryAt?, if_neg hne] at hentry
  have hnone : (fs.entries.filter fun entry => entry.1 != location) = fs.entries := by
    refine List.filter_eq_self.mpr fun entry hmem => ?_
    have hother : location ≠ entry.1 := by
      simpa using List.lookup_eq_none_iff.mp hentry entry hmem
    simpa using hother.symm
  rw [erase, hnone]

@[simp] theorem erase_erase (fs : FileSystem) (location : Location) :
    (fs.erase location).erase location = fs.erase location := by
  simp only [erase, List.filter_filter, Bool.and_self]

@[simp] theorem erase_insert (fs : FileSystem) (location : Location) (entry : Entry) :
    (fs.insert location entry).erase location = fs.erase location := by
  simp only [erase, insert, List.filter_cons, bne_self_eq_false, Bool.false_eq_true, if_false,
    List.filter_filter, Bool.and_self]

/-- What is put somewhere takes the place of what stood there. -/
theorem insert_of_erase_eq {fs' : FileSystem} (h : fs'.erase location = fs.erase location)
    (entry : Entry) : fs'.insert location entry = fs.insert location entry := by
  have hcurrent := congrArg FileSystem.current h
  change fs'.current = fs.current at hcurrent
  rw [insert, insert, h, hcurrent]

/-! ## Operations on paths that lead somewhere -/

/-- What stands at a path and is no directory is unlinked. -/
theorem unlink_of_leadsTo {path : Path} {entry : Entry} (h : fs.LeadsTo path location)
    (hentry : fs.entryAt? location = some entry) (hdirectory : entry ≠ .directory) :
    fs.unlink path = .ok (fs.erase location) := by
  obtain ⟨hzero, hslash, directory, name, hplace, rfl⟩ := h
  rw [unlink, hzero, hplace]
  simp only [Bool.false_eq_true, if_false, hentry, hslash]

/-- What is unlinked by a path is what stands there, and no directory. -/
theorem leadsTo_of_unlink {fs' : FileSystem} {path : Path} (h : fs.unlink path = .ok fs') :
    ∃ location entry, fs.LeadsTo path location ∧ fs.entryAt? location = some entry ∧
      entry ≠ .directory ∧ fs' = fs.erase location := by
  unfold unlink at h
  split at h
  · cases h
  next hzero =>
    split at h
    · cases h
    · cases h
    next directory name hplace =>
      split at h
      · cases h
      · cases h
      next entry hdirectory hentry =>
        split at h
        · cases h
        next hslash =>
          cases h
          exact ⟨_, entry,
            ⟨by simpa using hzero, by simpa using hslash, directory, name, hplace, rfl⟩,
            hentry, hdirectory, rfl⟩

/-- A socket file is made where nothing stands. -/
theorem leadsTo_of_bindSocket {fs' : FileSystem} {id : Nat} {path : Path} (hne : path ≠ [])
    (h : fs.bindSocket id path = .ok fs') :
    ∃ location, fs.LeadsTo path location ∧ fs.entryAt? location = none ∧
      fs' = fs.insert location (.socket id freshMode) := by
  rw [bindSocket, if_neg fun hempty => hne (List.isEmpty_iff.mp hempty)] at h
  split at h
  · cases h
  next hzero =>
    split at h
    · cases h
    split at h
    · cases h
    · cases h
    next directory name hplace =>
      split at h
      · cases h
      next hentry =>
        split at h
        · cases h
        next hslash =>
          cases h
          exact ⟨_, ⟨by simpa using hzero, by simpa using hslash, directory, name, hplace, rfl⟩,
            hentry, rfl⟩

/-- The path of a socket file is short enough to be connected to. -/
theorem length_of_bindSocket {fs' : FileSystem} {id : Nat} {path : Path}
    (h : fs.bindSocket id path = .ok fs') : path.length ≤ maxSocketPath := by
  unfold bindSocket at h
  split at h
  next hempty =>
    rw [List.isEmpty_iff.mp hempty]
    exact Nat.zero_le _
  · split at h
    · cases h
    · split at h
      · cases h
      next hshort => exact Nat.not_lt.mp hshort

/-- A client that connects to a path finds the socket whose file stands there. -/
theorem socketAt_of_holds {id mode : Nat} {path : Path} (h : fs.Holds path (.socket id mode))
    (hlength : path.length ≤ maxSocketPath) : fs.socketAt path = .ok id := by
  obtain ⟨location, hleads, hentry⟩ := h
  have hnonempty : path ≠ [] := by
    rintro rfl
    obtain ⟨-, -, directory, name, hplace, -⟩ := hleads
    cases hplace
  have hzero : path.head? ≠ some 0 := by
    intro hhead
    have hnone := hleads.1
    rw [hasZero, List.contains_eq_mem, decide_eq_false_iff_not] at hnone
    exact hnone (List.mem_of_mem_head? hhead)
  rw [socketAt, if_neg hzero, hleads.1, if_neg Bool.false_ne_true,
    if_neg (Nat.not_lt.mpr hlength), if_neg fun hempty => hnonempty (List.isEmpty_iff.mp hempty),
    hleads.find_socket hentry]

/-- The mode of the socket file at a path can be set. -/
theorem setMode_of_leadsTo {path : Path} {id mode : Nat} (h : fs.LeadsTo path location)
    (hentry : fs.entryAt? location = some (.socket id mode)) (mode' : Nat) :
    fs.setMode path mode' = .ok (fs.insert location (.socket id mode')) := by
  rw [setMode, h.1, h.find_socket hentry]
  rfl

end Beacon.FileSystem
