import TraefikUpgrade.Files.FileSystem
import TraefikUpgrade.Log.Json
import TraefikUpgrade.Text.Utf8

/-!
Contract: what a run needs from the machine.

Owns: the operations on files and the log of a machine, as one record over any
monad, and the machine whose files are a value. Directories are made together
with those above them here, from the making of single ones.

Does not own: the machine that a program runs on (`TraefikUpgrade.Main`).
-/

set_option autoImplicit false

namespace TraefikUpgrade.Files

/-- The operations of a machine. -/
structure Host (m : Type → Type) where
  /-- Whether a path leads to a directory, links followed. -/
  isDirectory : String → m (Except Fault Bool)
  readFile : String → m (Except Fault (List UInt8))
  /-- The names in a directory, in any order. -/
  readDirectory : String → m (Except Fault (List String))
  createDirectory : String → m (Except Fault Unit)
  writeFile : String → List UInt8 → m (Except Fault Unit)
  /-- Makes a file empty; the records that are logged from then on go to it too. -/
  openLog : String → m (Except Fault Unit)
  log : LogRecord → m Unit

namespace Host

variable {m : Type → Type} [Monad m]

/-- Makes a single directory, which may be there already. -/
def ensureDirectory (host : Host m) (path : String) : m (Except Fault Unit) := do
  match ← host.createDirectory path with
  | .ok _ => return .ok ()
  | .error fault =>
      match ← host.isDirectory path with
      | .ok true => return .ok ()
      | _ => return .error fault

/-- Makes a directory and those above it that are not there, at most `depth` of them. -/
def createDirectoriesTo (host : Host m) : (depth : Nat) → String → m (Except Fault Unit)
  | 0, _ => return .error .nameTooLong
  | depth + 1, path => do
      if path.isEmpty then return .ok ()
      match ← host.createDirectory path with
      | .ok _ => return .ok ()
      | .error .notFound =>
          match Path.parent? path with
          | none => return .error .notFound
          | some above =>
              match ← createDirectoriesTo host depth above with
              | .error fault => return .error fault
              | .ok _ => host.ensureDirectory path
      | .error fault =>
          match ← host.isDirectory path with
          | .ok true => return .ok ()
          | _ => return .error fault

def createDirectories (host : Host m) (path : String) : m (Except Fault Unit) :=
  host.createDirectoriesTo ((Path.names path).length + 2) path

/-- The machine with a log that shows only what a filter lets through. -/
def filtered (host : Host m) (filter : LogFilter) : Host m :=
  { host with log := fun record => if filter.shows record then host.log record else return () }

/-- Writes the records of a computation to the log, and gives its value. -/
def logAll {α : Type} (host : Host m) (computation : Logged α) : m α := do
  for record in computation.records do
    host.log record
  return computation.value

end Host

/-- A file that receives records, and how many bytes of them it has received. -/
structure LogFile where
  location : Location
  length : Nat
deriving DecidableEq, Repr

/-- A machine as a value: its files, what it has logged, and the file that receives it. -/
structure Machine where
  files : FileSystem
  records : List LogRecord
  logFile : Option LogFile
deriving DecidableEq, Repr

namespace Machine

def ofFiles (files : FileSystem) : Machine :=
  ⟨files, [], none⟩

/-- A look at the files as a step. -/
def reading {α : Type} (read : FileSystem → Except Fault α) :
    StateM Machine (Except Fault α) := do
  return read (← get).files

/-- A change of the files as a step; one that fails changes nothing. -/
def changing (change : FileSystem → Except Fault FileSystem) :
    StateM Machine (Except Fault Unit) := do
  let machine ← get
  match change machine.files with
  | .error fault => return .error fault
  | .ok files =>
      set { machine with files }
      return .ok ()

def openLog (machine : Machine) (path : String) : Except Fault Machine := do
  let files ← machine.files.writeFile path []
  let (location, _) ← files.find path
  return { machine with files, logFile := some ⟨location, 0⟩ }

/-- Logs a record. A file that receives records gets it behind those that it has received. -/
def log (machine : Machine) (record : LogRecord) : Machine :=
  let machine := { machine with records := machine.records ++ [record] }
  match machine.logFile with
  | none => machine
  | some logFile =>
      let line := Text.toUtf8 record.fileLine
      { machine with
        files := machine.files.writeAt logFile.location logFile.length line
        logFile := some { logFile with length := logFile.length + line.length } }

/-- The operations on a machine that is a value. -/
def host : Host (StateM Machine) where
  isDirectory path := reading fun files => files.isDirectory path
  readFile path := reading fun files => files.readFile path
  readDirectory path := reading fun files => files.readDirectory path
  createDirectory path := changing fun files => files.createDirectory path
  writeFile path bytes := changing fun files => files.writeFile path bytes
  openLog path := do
    match (← get).openLog path with
    | .error fault => return .error fault
    | .ok machine =>
        set machine
        return .ok ()
  log record := modify fun machine => machine.log record

end Machine

end TraefikUpgrade.Files
