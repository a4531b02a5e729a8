import TraefikUpgrade.Program

/-!
Contract: the command line program.

Owns: the operations of the machine that the program runs on, and the entry
point. What a run does is decided elsewhere (`TraefikUpgrade.Program`).
-/

set_option autoImplicit false

namespace TraefikUpgrade.Main

open Files (Fault Host)

/-- The fault with a number, which some operations give with the opposite sign. -/
def faultOfNumber? (number : UInt32) : Option Fault :=
  match if number.toNat < Nat.pow 2 31 then number else 0 - number with
  | 20 => some .notADirectory
  | 21 => some .isADirectory
  | 36 => some .nameTooLong
  | 40 => some .tooManyLinks
  | _ => none

def faultOf (error : IO.Error) : Fault :=
  let fault : Option Fault :=
    match error with
    | .noFileOrDirectory .. => some .notFound
    | .alreadyExists .. => some .alreadyExists
    | .inappropriateType _ number _ | .invalidArgument _ number _ => faultOfNumber? number
    | _ => none
  fault.getD (.other (toString error))

/-- An operation of the machine on a path that can lead somewhere. -/
def attempt {α : Type} (path : String) (operation : IO α) : IO (Except Fault α) := do
  match Files.FileSystem.checkPath path with
  | .error fault => return .error fault
  | .ok _ =>
      match ← operation.toBaseIO with
      | .ok value => return .ok value
      | .error error => return .error (faultOf error)

def entry (path : String) : IO.FS.DirEntry :=
  ⟨path, ""⟩

/-- The machine that the program runs on. Its log goes to the console and to the open log file. -/
def host (logFile : IO.Ref (Option IO.FS.Handle)) : Host IO where
  isDirectory path := attempt path do
    return (← (entry path).root.metadata).type == .dir
  readFile path := attempt path do
    return (← IO.FS.readBinFile path).toList
  readDirectory path := attempt path do
    return ((← (entry path).root.readDir).map IO.FS.DirEntry.fileName).toList
  createDirectory path := attempt path (IO.FS.createDir path)
  writeFile path bytes := attempt path (IO.FS.writeBinFile path ⟨bytes.toArray⟩)
  openLog path := attempt path do
    logFile.set (some (← IO.FS.Handle.mk path .write))
  log record := do
    IO.eprintln record.line
    match ← logFile.get with
    | none => return ()
    | some handle =>
        handle.putStr record.fileLine
        handle.flush

/-- The kind of the machine, from the shell's variables where they are set. -/
def platform : IO String := do
  let system := (← IO.getEnv "OSTYPE").getD "linux"
  let processor := (← IO.getEnv "HOSTTYPE").getD "x86_64"
  return s!"{system}/{processor}"

end TraefikUpgrade.Main

def main (words : List String) : IO UInt32 := do
  let logFile ← IO.mkRef none
  let filter := TraefikUpgrade.LogFilter.ofSetting (← IO.getEnv "RUST_LOG")
  let platform ← TraefikUpgrade.Main.platform
  let outcome ←
    TraefikUpgrade.Program.run (TraefikUpgrade.Main.host logFile) platform filter words
  IO.print outcome.output
  outcome.errors.forM fun line => IO.eprintln line
  return outcome.exitStatus.toUInt32
