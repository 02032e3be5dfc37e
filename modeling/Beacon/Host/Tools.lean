import Beacon.Host.FileSystem

/-!
# Everyday file operations

What everybody else does to the file system: writing files, making directories and links, moving
and removing entries, and looking at them. An operation that the system refuses gives nothing, but
one that takes several steps may have changed something before a step of it is refused.
-/

namespace Beacon

/-! ## Looking -/

def octal (mode : Nat) : String :=
  String.ofList (Nat.toDigits 8 mode)

def Entry.describe : Entry → String
  | .directory => "dir"
  | .file _ => "file"
  | .link _ => "symlink"
  | .socket _ mode => "socket " ++ octal mode

namespace FileSystem

def absent : String := "absent"

/-- What stands at a path, and where; a link stands for itself unless a slash follows it. -/
def look (fs : FileSystem) (path : Path) : Option (Location × Entry) :=
  if hasZero path then none
  else if endsInSlash path then
    match fs.find path with
    | .ok (.found location entry) => some (location, entry)
    | _ => none
  else
    match fs.place path with
    | .ok (.special location) => some (location, .directory)
    | .ok (.named directory name) =>
        (fs.entryAt? (directory ++ [name])).map fun entry => (directory ++ [name], entry)
    | .error _ => none

def describe (fs : FileSystem) (path : Path) : String :=
  match fs.look path with
  | some (_, entry) => entry.describe
  | none => absent

def isDirectory (fs : FileSystem) (path : Path) : Bool :=
  if hasZero path then false
  else
    match fs.find path with
    | .ok (.found _ .directory) => true
    | _ => false

def list? (fs : FileSystem) (path : Path) : Option (List String) :=
  if hasZero path then none
  else
    match fs.find path with
    | .ok (.found location .directory) =>
        let inside := fs.entries.filter fun entry =>
          entry.1 != [] && entry.1.dropLast == location
        some ((inside.filterMap fun entry => entry.1.getLast?.map Utf8.display).mergeSort (· ≤ ·))
    | _ => none

/-- Whether an operation was done, and the file system after it; a refused one changes nothing. -/
def orSame (fs : FileSystem) : Option FileSystem → Bool × FileSystem
  | some changed => (true, changed)
  | none => (false, fs)

/-! ## Making -/

/-- Writes a file, through links; a socket file or directory cannot be written. -/
def writeFile? (fs : FileSystem) (path : Path) (content : Octets) : Option FileSystem :=
  if hasZero path then none
  else
    match fs.find path with
    | .ok (.found location (.file _)) => some (fs.insert location (.file content))
    | .ok (.vacant directory name) =>
        if endsInSlash path then none else some (fs.insert (directory ++ [name]) (.file content))
    | _ => none

/-- Makes one directory. Nothing may stand there, not even a link. -/
def makeDirectory (fs : FileSystem) (path : Path) : Except SystemError FileSystem :=
  if hasZero path then .error .zeroInPath
  else
    match fs.place path with
    | .error fault => .error fault
    | .ok (.special _) => .error .fileExists
    | .ok (.named directory name) =>
        match fs.entryAt? (directory ++ [name]) with
        | some _ => .error .fileExists
        | none => .ok (fs.insert (directory ++ [name]) .directory)

/-- Makes a directory and, if something on the way to it is missing, first what `above` makes. A
directory that is there already is as good as a new one. -/
def makeAfter (fs : FileSystem) (path : Path) (above : FileSystem → Bool × FileSystem) :
    Bool × FileSystem :=
  match fs.makeDirectory path with
  | .ok made => (true, made)
  | .error fault =>
      if fault = .noEntry then
        match above fs with
        | (true, ready) =>
            match ready.makeDirectory path with
            | .ok made => (true, made)
            | .error _ => (ready.isDirectory path, ready)
        | refused => refused
      else (fs.isDirectory path, fs)

def pathOf (absolute : Bool) (reversed : List Name) : Path :=
  (if absolute then [slash] else []) ++ List.intercalate [slash] reversed.reverse

/-- Makes the directory that names lead to, the last one first, and those on the way. -/
def makeAbove (absolute : Bool) : List Name → FileSystem → Bool × FileSystem
  | [], fs => (true, fs)
  | name :: above, fs =>
      fs.makeAfter (pathOf absolute (name :: above)) (makeAbove absolute above)

/-- The names of a path without those that stand for the directory itself. The first name of a
path from the working directory may be one. -/
def steps (path : Path) : List Name :=
  match names path with
  | [] => []
  | first :: rest =>
      let kept := rest.filter (· ≠ selfName)
      if first = selfName ∧ isAbsolute path then kept else first :: kept

/-- Makes a directory and those that lead to it. Those that are made stay, even if one after them
cannot be. -/
def makeDirectories (fs : FileSystem) (path : Path) : Bool × FileSystem :=
  if path.isEmpty then (true, fs)
  else fs.makeAfter path (makeAbove (isAbsolute path) (steps path).reverse.tail)

def makeLink? (fs : FileSystem) (target path : Path) : Option FileSystem :=
  if hasZero path ∨ hasZero target ∨ target.isEmpty ∨ maxPath ≤ target.length then none
  else
    match fs.place path with
    | .ok (.named directory name) =>
        match fs.entryAt? (directory ++ [name]) with
        | none =>
            if endsInSlash path then none
            else some (fs.insert (directory ++ [name]) (.link target))
        | some _ => none
    | _ => none

/-! ## Removing and moving -/

/-- The file system without an entry and everything below it. -/
def eraseTree (fs : FileSystem) (location : Location) : FileSystem :=
  { fs with entries := fs.entries.filter fun entry => !location.isPrefixOf entry.1 }

def eraseBelow (fs : FileSystem) (location : Location) : FileSystem :=
  { fs with
    entries := fs.entries.filter fun entry =>
      entry.1 == location || !location.isPrefixOf entry.1 }

def isEmptyDirectory (fs : FileSystem) (location : Location) : Bool :=
  fs.entries.all fun entry => entry.1 == location || !location.isPrefixOf entry.1

/-- Removes an empty directory, which must be named as itself and not through a link. -/
def removeDirectory (fs : FileSystem) (path : Path) : Except SystemError FileSystem :=
  if hasZero path then .error .zeroInPath
  else
    match fs.place path with
    | .error fault => .error fault
    | .ok (.special _) => .error .invalidArgument
    | .ok (.named directory name) =>
        match fs.entryAt? (directory ++ [name]) with
        | none => .error .noEntry
        | some .directory =>
            if fs.isEmptyDirectory (directory ++ [name]) then
              .ok (fs.erase (directory ++ [name]))
            else .error .directoryNotEmpty
        | some _ => .error .notDirectory

/-- Removes what stands at a path: a link itself, and a directory after all it holds, which is gone
even if the directory cannot be removed by that path. -/
def remove (fs : FileSystem) (path : Path) : Bool × FileSystem :=
  match fs.look path with
  | none => (false, fs)
  | some (location, .directory) =>
      let cleared := fs.eraseBelow location
      match cleared.removeDirectory path with
      | .ok removed => (true, removed)
      | .error _ => (false, cleared)
  | some _ =>
      match fs.unlink path with
      | .ok removed => (true, removed)
      | .error _ => (false, fs)

/-- Moves an entry and everything below it over whatever stands at its new location. -/
def moveTree (fs : FileSystem) (source target : Location) : FileSystem :=
  let moved := (fs.eraseTree target).entries.map fun entry =>
    if source.isPrefixOf entry.1 then (target ++ entry.1.drop source.length, entry.2) else entry
  { fs with entries := moved }

/-- Moves an entry to another path. Only an empty directory gives way to a directory, and only
what is no directory to anything else. -/
def rename? (fs : FileSystem) (path other : Path) : Option FileSystem :=
  if hasZero path ∨ hasZero other then none
  else
    match fs.place path, fs.place other with
    | .ok (.named directory name), .ok (.named directory' name') =>
        let source := directory ++ [name]
        let target := directory' ++ [name']
        match fs.entryAt? source with
        | none => none
        | some .directory =>
            if source = target then some fs
            else if source.isPrefixOf target then none
            else
              match fs.entryAt? target with
              | none => some (fs.moveTree source target)
              | some .directory =>
                  if fs.isEmptyDirectory target then some (fs.moveTree source target) else none
              | some _ => none
        | some _ =>
            if endsInSlash path ∨ endsInSlash other then none
            else if source = target then some fs
            else
              match fs.entryAt? target with
              | some .directory => none
              | _ => some (fs.moveTree source target)
    | _, _ => none

end FileSystem

end Beacon
