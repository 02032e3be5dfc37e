import Beacon.Host.SystemError
import Beacon.Transport

/-!
# The file system

Entries stand at locations, which are lists of names from the root. A path is resolved from the
working directory name by name: symbolic links on the way are followed, at most forty of them, and
everything on the way must be a directory. Each operation resolves its path in its own manner and
changes at most one entry.
-/

namespace Beacon

abbrev Name := Octets

/-- The place of an entry: the names that lead to it from the root. -/
abbrev Location := List Name

inductive Entry where
  | directory
  | file (content : Octets)
  /-- A symbolic link, by the path that it holds. -/
  | link (target : Path)
  /-- A socket file, by the identity of the socket that made it and its mode. -/
  | socket (id : Nat) (mode : Nat)
  deriving DecidableEq, Repr

/-- The entries of a file system, and the working directory. -/
structure FileSystem where
  entries : List (Location × Entry)
  current : Location
  deriving DecidableEq, Repr

namespace FileSystem

/-! ## Entries -/

/-- What stands at a location. The root is always a directory. -/
def entryAt? (fs : FileSystem) (location : Location) : Option Entry :=
  if location = [] then some .directory else fs.entries.lookup location

def erase (fs : FileSystem) (location : Location) : FileSystem :=
  { fs with entries := fs.entries.filter fun entry => entry.1 != location }

def insert (fs : FileSystem) (location : Location) (entry : Entry) : FileSystem :=
  { fs with entries := (location, entry) :: (fs.erase location).entries }

theorem lookup_filter_ne (entries : List (Location × Entry)) {location other : Location}
    (h : other ≠ location) :
    (entries.filter fun entry => entry.1 != location).lookup other = entries.lookup other := by
  induction entries with
  | nil => rfl
  | cons first rest ih =>
      obtain ⟨place, what⟩ := first
      by_cases same : place = location
      · subst same
        have different : (other == place) = false := by simpa using h
        simp [ih, List.lookup_cons, different]
      · simp [same, List.lookup_cons, ih]

theorem lookup_filter_self (entries : List (Location × Entry)) (location : Location) :
    (entries.filter fun entry => entry.1 != location).lookup location = none := by
  induction entries with
  | nil => rfl
  | cons first rest ih =>
      obtain ⟨place, what⟩ := first
      by_cases same : place = location
      · subst same
        simpa using ih
      · have different : (location == place) = false := by simpa using Ne.symm same
        simp [same, List.lookup_cons, ih, different]

/-- Nothing stands at an erased location. -/
theorem entryAt?_erase_self (fs : FileSystem) {location : Location} (h : location ≠ []) :
    (fs.erase location).entryAt? location = none := by
  simp [entryAt?, h, erase, lookup_filter_self]

/-- Erasing changes no other location. -/
theorem entryAt?_erase_of_ne (fs : FileSystem) {location other : Location} (h : other ≠ location) :
    (fs.erase location).entryAt? other = fs.entryAt? other := by
  simp [entryAt?, erase, lookup_filter_ne _ h]

/-- What was inserted stands at its location. -/
theorem entryAt?_insert_self (fs : FileSystem) (entry : Entry) {location : Location}
    (h : location ≠ []) : (fs.insert location entry).entryAt? location = some entry := by
  simp [entryAt?, h, insert]

/-- Inserting changes no other location. -/
theorem entryAt?_insert_of_ne (fs : FileSystem) (entry : Entry) {location other : Location}
    (h : other ≠ location) : (fs.insert location entry).entryAt? other = fs.entryAt? other := by
  have different : (other == location) = false := by simpa using h
  simp [entryAt?, insert, List.lookup_cons, different, erase, lookup_filter_ne _ h]

/-! ## Paths -/

def slash : UInt8 := 0x2F

def selfName : Name := [0x2E]

def parentName : Name := [0x2E, 0x2E]

def names (path : Path) : List Name :=
  (path.splitOn slash).filter fun name => !name.isEmpty

def isAbsolute (path : Path) : Bool :=
  path.head? == some slash

/-- Whether a path ends in a slash, and so asks for a directory. -/
def endsInSlash (path : Path) : Bool :=
  path.getLast? == some slash

/-- The most octets that a path may have, with the zero octet that ends it. -/
def maxPath : Nat := 4096

def maxName : Nat := 255

/-- The most symbolic links that are followed for one path. -/
def maxLinks : Nat := 40

/-- The directory in which the resolution of a path starts. -/
def start (fs : FileSystem) (path : Path) : Location :=
  if isAbsolute path then [] else fs.current

/-! ## Resolution -/

inductive Spot where
  /-- To an entry. -/
  | found (location : Location) (entry : Entry)
  /-- To a name in a directory that has no entry of that name. -/
  | vacant (directory : Location) (name : Name)
  deriving DecidableEq, Repr

/-- The names through which a link leads. One whose path ends in a slash asks for a directory, as
the name of the directory itself does after the others. -/
def linkNames (target : Path) : List Name :=
  names target ++ if endsInSlash target then [selfName] else []

/-- Resolves names from a directory on. The last one is followed if it is a link and `follow` is
set; `links` counts the links that may still be followed. -/
def resolve (fs : FileSystem) (follow : Bool) (links : Nat) (directory : Location) :
    List Name → Except SystemError Spot
  | [] => .ok (.found directory .directory)
  | name :: rest =>
      if maxName < name.length then .error .nameTooLong
      else if name = selfName then resolve fs follow links directory rest
      else if name = parentName then resolve fs follow links directory.dropLast rest
      else
        let location := directory ++ [name]
        match fs.entryAt? location with
        | none => if rest = [] then .ok (.vacant directory name) else .error .noEntry
        | some .directory => resolve fs follow links location rest
        | some (.link target) =>
            if rest = [] ∧ ¬follow then .ok (.found location (.link target))
            else
              match links with
              | 0 => .error .tooManyLinks
              | links + 1 =>
                  resolve fs follow links (if isAbsolute target then [] else directory)
                    (linkNames target ++ rest)
        | some entry =>
            if rest = [] then .ok (.found location entry) else .error .notDirectory
termination_by names => (links, names.length)

def checkLength (path : Path) : Except SystemError Unit :=
  if path.isEmpty then .error .noEntry
  else if maxPath ≤ path.length then .error .nameTooLong
  else .ok ()

/-- Resolves the directory in which the last name of some names stands. -/
def resolveParent (fs : FileSystem) (base : Location) (parents : List Name) :
    Except SystemError Location :=
  match fs.resolve true maxLinks base parents with
  | .error fault => .error fault
  | .ok (.vacant _ _) => .error .noEntry
  | .ok (.found location .directory) => .ok location
  | .ok (.found _ _) => .error .notDirectory

/-- Where the last name of a path stands, without following it. -/
inductive Place where
  /-- A name in a directory. -/
  | named (directory : Location) (name : Name)
  /-- The root, or a directory that is named by its relation to another one. -/
  | special (location : Location)
  deriving DecidableEq, Repr

def place (fs : FileSystem) (path : Path) : Except SystemError Place :=
  match checkLength path with
  | .error fault => .error fault
  | .ok () =>
      match (names path).getLast? with
      | none => .ok (.special (fs.start path))
      | some last =>
          match fs.resolveParent (fs.start path) (names path).dropLast with
          | .error fault => .error fault
          | .ok directory =>
              if maxName < last.length then .error .nameTooLong
              else if last = selfName then .ok (.special directory)
              else if last = parentName then .ok (.special directory.dropLast)
              else .ok (.named directory last)

/-- Finds what a path leads to, following links to the end; a path that ends in a slash must lead
to a directory. -/
def find (fs : FileSystem) (path : Path) : Except SystemError Spot :=
  match checkLength path with
  | .error fault => .error fault
  | .ok () =>
      match fs.resolve true maxLinks (fs.start path) (names path) with
      | .error fault => .error fault
      | .ok (.found location .directory) => .ok (.found location .directory)
      | .ok (.found location entry) =>
          if endsInSlash path then .error .notDirectory else .ok (.found location entry)
      | .ok (.vacant directory name) => .ok (.vacant directory name)

/-! ## Operations -/

/-- Whether a path can be handed to the system at all. -/
def hasZero (path : Path) : Bool :=
  path.contains 0

/-- Removes the entry at a path. Directories stay; links are not followed. -/
def unlink (fs : FileSystem) (path : Path) : Except SystemError FileSystem :=
  if hasZero path then .error .zeroInPath
  else
    match fs.place path with
    | .error fault => .error fault
    | .ok (.special _) => .error .isDirectory
    | .ok (.named directory name) =>
        match fs.entryAt? (directory ++ [name]) with
        | none => .error .noEntry
        | some .directory => .error .isDirectory
        | some _ =>
            if endsInSlash path then .error .notDirectory
            else .ok (fs.erase (directory ++ [name]))

def freshMode : Nat := 0o755

def maxSocketPath : Nat := 107

/-- Makes a socket file at a path. Links at the path are not followed, and nothing may stand
there. The empty path asks for a socket without a file. -/
def bindSocket (fs : FileSystem) (id : Nat) (path : Path) : Except SystemError FileSystem :=
  if path.isEmpty then .ok fs
  else if hasZero path then .error .zeroInSocketPath
  else if maxSocketPath < path.length then .error .socketPathTooLong
  else
    match fs.place path with
    | .error fault => .error fault
    | .ok (.special _) => .error .addressInUse
    | .ok (.named directory name) =>
        match fs.entryAt? (directory ++ [name]) with
        | some _ => .error .addressInUse
        | none =>
            if endsInSlash path then .error .noEntry
            else .ok (fs.insert (directory ++ [name]) (.socket id freshMode))

/-- Sets the mode of what a path leads to. Only the modes of socket files are kept. -/
def setMode (fs : FileSystem) (path : Path) (mode : Nat) : Except SystemError FileSystem :=
  if hasZero path then .error .zeroInPath
  else
    match fs.find path with
    | .error fault => .error fault
    | .ok (.vacant _ _) => .error .noEntry
    | .ok (.found location (.socket id _)) => .ok (fs.insert location (.socket id mode))
    | .ok (.found _ _) => .ok fs

/-- Finds the socket that a client reaches at a path. A path that starts with a zero octet is a
name outside the file system, and nobody listens there; the name may not be empty. -/
def socketAt (fs : FileSystem) (path : Path) : Except SystemError Nat :=
  if path.head? = some 0 then
    if maxSocketPath + 1 < path.length then .error .abstractNameTooLong
    else if path.length = 1 then .error .invalidArgument
    else .error .connectionRefused
  else if hasZero path then .error .zeroInSocketPath
  else if maxSocketPath < path.length then .error .socketPathTooLong
  else if path.isEmpty then .error .invalidArgument
  else
    match fs.find path with
    | .error fault => .error fault
    | .ok (.vacant _ _) => .error .noEntry
    | .ok (.found _ (.socket id _)) => .ok id
    | .ok (.found _ _) => .error .connectionRefused

end FileSystem

end Beacon
