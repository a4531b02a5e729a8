import TraefikUpgrade.Files.Host
import TraefikUpgrade.Manifest.Convert
import TraefikUpgrade.Text.Utf8

/-!
Contract: the conversion of a tree of files.

Owns: the walk through a tree, in the order of the names in each directory,
the file that each file becomes in a tree of the same shape, what stops a walk,
and the preparation of the directory for the output. Files that are not text
are copied.

Does not own: what a text becomes (`TraefikUpgrade.Manifest.Convert`).
-/

set_option autoImplicit false

namespace TraefikUpgrade

open Files (Host Fault)

inductive FileAction where
  | read
  | readDirectory
  | createDirectory
  | write
deriving DecidableEq, Repr

def FileAction.message (action : FileAction) (path : String) : String :=
  match action with
  | .read => s!"Failed to read {path}"
  | .readDirectory => s!"Failed to read directory {path}"
  | .createDirectory => s!"Failed to create directory {path}"
  | .write => s!"Failed to write {path}"

inductive RunError where
  | failed (action : FileAction) (path : String) (fault : Fault)
  /-- The output is to go to something that is no directory. -/
  | notADirectory (path : String)
  /-- The input is a file whose path has no name. -/
  | invalidPath (path : String)
deriving DecidableEq, Repr

namespace RunError

/-- What stopped the run, and the cause of it if there is one. -/
def messages : RunError → List String
  | .failed action path fault => [action.message path, fault.message]
  | .notADirectory path => [s!"NotADirectory: {Text.quoted path}"]
  | .invalidPath path => [s!"InvalidPath: {Text.quoted path}"]

end RunError

namespace Walk

variable {m : Type → Type} [Monad m]

/-- A step of a run: the reading of a fault as the end of the run. -/
def step {α : Type} (action : FileAction) (path : String) (operation : m (Except Fault α)) :
    ExceptT RunError m α :=
  ExceptT.mk do
    match ← operation with
    | .ok value => return .ok value
    | .error fault => return .error (.failed action path fault)

def convertBytes (configuration : Configuration) (path : String) (bytes : List UInt8) :
    Logged (List UInt8) :=
  match Text.ofUtf8 bytes with
  | .ok content => do return Text.toUtf8 (← Manifest.convert configuration content)
  | .error fault =>
      ⟨bytes,
        [⟨.warn, s!"{path} is not valid UTF-8 ({fault.message}), copying it unchanged"⟩]⟩

/-- Converts a file into a directory, which is made if it is not there. -/
def convertFile (host : Host m) (configuration : Configuration) (source target : String) :
    ExceptT RunError m Unit := do
  match Files.Path.fileName? source with
  | none => throw (.invalidPath source)
  | some name =>
      ExceptT.lift (host.log ⟨.debug, s!"Convert {source}"⟩)
      let bytes ← step .read source (host.readFile source)
      let converted ← ExceptT.lift (host.logAll (convertBytes configuration source bytes))
      step .createDirectory target (host.createDirectories target)
      let path := Files.Path.join target name
      step .write path (host.writeFile path converted)

/-- The directory into which the files of a directory go. -/
def targetOf (source target : String) : String :=
  match Files.Path.fileName? source with
  | some name => Files.Path.join target name
  | none => target

def sortedNames (names : List String) : List String :=
  names.mergeSort fun first second => decide (first ≤ second)

def forEach {α : Type} (action : α → ExceptT RunError m Unit) :
    List α → ExceptT RunError m Unit
  | [] => pure ()
  | item :: rest => do
      action item
      forEach action rest

/-- Converts what a path leads to, and below a directory everything in it. Directories are nested
at most `depth` deep. -/
def convertTo (host : Host m) (configuration : Configuration) :
    (depth : Nat) → (source target : String) → ExceptT RunError m Unit
  | 0, source, _ => throw (.failed .read source .nameTooLong)
  | depth + 1, source, target => do
      if ← step .read source (host.isDirectory source) then
        let names ← step .readDirectory source (host.readDirectory source)
        let target := targetOf source target
        forEach
          (fun name => convertTo host configuration depth (Files.Path.join source name) target)
          (sortedNames names)
      else convertFile host configuration source target

/-- Converts what a path leads to. A path can only be so long, so that it leads only so deep. -/
def convert (host : Host m) (configuration : Configuration) (source target : String) :
    ExceptT RunError m Unit :=
  convertTo host configuration (Files.Path.greatestPathLength + 1) source target

/-- Makes sure that the output can go to a path. -/
def prepareOutput (host : Host m) (path : String) : ExceptT RunError m Unit := do
  match ← ExceptT.lift (host.isDirectory path) with
  | .ok true => pure ()
  | .ok false => throw (.notADirectory path)
  | .error .notFound => step .createDirectory path (host.createDirectories path)
  | .error fault => throw (.failed .read path fault)

def run (host : Host m) (configuration : Configuration) (input output : String) :
    ExceptT RunError m Unit := do
  prepareOutput host output
  convert host configuration input output

end Walk

end TraefikUpgrade
