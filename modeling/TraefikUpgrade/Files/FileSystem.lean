import TraefikUpgrade.Files.Fault
import TraefikUpgrade.Files.Path

/-!
Contract: a file system as a value.

Owns: what stands at which location, what a path leads to, and the operations
that read and change files. Links are followed, a bounded number of them.

Does not own: the files of the machine that a program runs on
(`TraefikUpgrade.Files.Host`).
-/

set_option autoImplicit false

namespace TraefikUpgrade.Files

/-- The names that lead from the root to a place, without links. -/
abbrev Location := List String

/-- What can stand at a location. -/
inductive FileObject where
  | file (bytes : List UInt8)
  | link (target : String)
  | directory
deriving DecidableEq, Repr

/-- The objects below the root, each location once, and the directory where relative paths start. -/
structure FileSystem where
  objects : List (Location × FileObject)
  workingDirectory : Location
deriving DecidableEq, Repr

/-- What a path leads to. -/
inductive Destination where
  /-- An object stands there. -/
  | present (location : Location)
  /-- Nothing stands there, but its directory does. -/
  | absent (location : Location)
deriving DecidableEq, Repr

/-- How far a path leads without following a link. -/
inductive Advance where
  | arrived (destination : Destination)
  /-- A link in the directory at the location, and the names after it. -/
  | atLink (directory : Location) (target : String) (rest : List String)
deriving DecidableEq, Repr

namespace FileSystem

def empty : FileSystem :=
  ⟨[], []⟩

/-- What stands at a location; the root is a directory. -/
def object? (files : FileSystem) (location : Location) : Option FileObject :=
  if location.isEmpty then some .directory else files.objects.lookup location

/-- Puts an object at a location, in place of what stands there. -/
def put (files : FileSystem) (location : Location) (object : FileObject) : FileSystem :=
  let objects :=
    if (files.objects.lookup location).isSome then
      files.objects.map fun entry => if entry.1 = location then (location, object) else entry
    else files.objects ++ [(location, object)]
  { files with objects }

def namesIn (files : FileSystem) (location : Location) : List String :=
  files.objects.filterMap fun entry =>
    if entry.1.dropLast = location then entry.1.getLast? else none

/-- Goes along names from a directory up to the next link that has to be followed. A link at the
end is followed only on demand. -/
def advance (files : FileSystem) (followsLast : Bool) :
    Location → List String → Except Fault Advance
  | location, [] => .ok (.arrived (.present location))
  | location, name :: rest =>
      if name = Path.current then advance files followsLast location rest
      else if name = Path.parentName then advance files followsLast location.dropLast rest
      else if Path.greatestNameLength < Path.byteLength name then .error .nameTooLong
      else
        let next := location ++ [name]
        match files.object? next with
        | none => if rest.isEmpty then .ok (.arrived (.absent next)) else .error .notFound
        | some .directory => advance files followsLast next rest
        | some (.file _) =>
            if rest.isEmpty then .ok (.arrived (.present next)) else .error .notADirectory
        | some (.link target) =>
            if rest.isEmpty && !followsLast then .ok (.arrived (.present next))
            else .ok (.atLink location target rest)

/-- The names of a path. One that ends with a slash leads to the directory itself. -/
def pathNames (path : String) : List String :=
  Path.names path ++ if Path.endsWithSlash path then [Path.current] else []

/-- Goes along names and at most `links - 1` links. -/
def follow (files : FileSystem) (followsLast : Bool) :
    (links : Nat) → Location → List String → Except Fault Destination
  | 0, _, _ => .error .tooManyLinks
  | links + 1, location, names => do
      match ← advance files followsLast location names with
      | .arrived destination => return destination
      | .atLink directory target rest =>
          let start := if Path.isAbsolute target then [] else directory
          follow files followsLast links start (pathNames target ++ rest)

def start (files : FileSystem) (path : String) : Location :=
  if Path.isAbsolute path then [] else files.workingDirectory

/-- How many links a path may lead along. -/
def greatestLinks : Nat := 40

def checkPath (path : String) : Except Fault Unit :=
  if path.toList.contains '\x00' then .error .invalidPath
  else if path.isEmpty then .error .notFound
  else if Path.greatestPathLength < Path.byteLength path then .error .nameTooLong
  else .ok ()

/-- What a path leads to. -/
def resolve (files : FileSystem) (followsLast : Bool) (path : String) :
    Except Fault Destination := do
  checkPath path
  follow files followsLast (greatestLinks + 1) (files.start path) (pathNames path)

/-- The object that a path leads to, all links followed. -/
def find (files : FileSystem) (path : String) : Except Fault (Location × FileObject) := do
  match ← files.resolve true path with
  | .absent _ => .error .notFound
  | .present location =>
      match files.object? location with
      | some object => return (location, object)
      | none => .error .notFound

def isDirectory (files : FileSystem) (path : String) : Except Fault Bool := do
  let (_, object) ← files.find path
  return object = .directory

def readFile (files : FileSystem) (path : String) : Except Fault (List UInt8) := do
  match ← files.find path with
  | (_, .file bytes) => return bytes
  | _ => .error .isADirectory

def readDirectory (files : FileSystem) (path : String) : Except Fault (List String) := do
  match ← files.find path with
  | (location, .directory) => return files.namesIn location
  | _ => .error .notADirectory

/-- Makes a directory in a directory that is there. Slashes at the end do not count. -/
def createDirectory (files : FileSystem) (path : String) : Except Fault FileSystem := do
  checkPath path
  match ← files.follow false (greatestLinks + 1) (files.start path) (Path.names path) with
  | .present _ => .error .alreadyExists
  | .absent location => return files.put location .directory

/-- Writes a file, in place of the bytes that it had. No file has a name that ends with a slash. -/
def writeFile (files : FileSystem) (path : String) (bytes : List UInt8) :
    Except Fault FileSystem := do
  if Path.endsWithSlash path then
    let _ ← files.follow true (greatestLinks + 1) (files.start path) (Path.names path).dropLast
    .error .isADirectory
  else
    match ← files.resolve true path with
    | .absent location => return files.put location (.file bytes)
    | .present location =>
        match files.object? location with
        | some (.file _) => return files.put location (.file bytes)
        | _ => .error .isADirectory

/-- The bytes of a file after a writing that starts behind the first `offset` bytes. What lies
between the end of the file and the offset is filled with zeros. -/
def overwrite (bytes : List UInt8) (offset : Nat) (written : List UInt8) : List UInt8 :=
  bytes.take offset ++ List.replicate (offset - bytes.length) 0 ++ written ++
    bytes.drop (offset + written.length)

def writeAt (files : FileSystem) (location : Location) (offset : Nat) (written : List UInt8) :
    FileSystem :=
  match files.object? location with
  | some (.file bytes) => files.put location (.file (overwrite bytes offset written))
  | _ => files

def createLink (files : FileSystem) (path target : String) : Except Fault FileSystem := do
  match ← files.resolve false path with
  | .present _ => .error .alreadyExists
  | .absent location => return files.put location (.link target)

end FileSystem

end TraefikUpgrade.Files
