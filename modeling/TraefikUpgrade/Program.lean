import TraefikUpgrade.CommandLine
import TraefikUpgrade.Files.Walk
import TraefikUpgrade.Usage

/-!
Contract: a whole run from its command line.

Owns: the order of the steps of a run, and what a run leaves besides its files
and its log: an exit status and texts. The log file is made first, so that the
search for the configuration is already logged to it; the configuration is read
before anything else is done.

Does not own: the machine (`TraefikUpgrade.Files.Host`) and the reading of the
words (`TraefikUpgrade.CommandLine`).
-/

set_option autoImplicit false

namespace TraefikUpgrade

open Files (Fault Host)

inductive ConfigurationSource where
  | standard
  | file (path : String)
deriving DecidableEq, Repr

inductive ProgramError where
  | logFile (fault : Fault)
  | configurationFile (fault : Fault)
  | configuration (error : ConfigurationError)
  | run (error : RunError)
deriving DecidableEq, Repr

/-- What went wrong, and the cause of it if there is one. -/
def ProgramError.messages : ProgramError → List String
  | .logFile fault => [fault.message]
  | .configurationFile fault => [fault.message]
  | .configuration error => [error.message]
  | .run error => error.messages

structure Outcome where
  exitStatus : Nat
  output : String
  /-- The lines after the log. -/
  errors : List String
deriving DecidableEq, Repr

namespace Program

/-- The lines that report what went wrong, with the cause below it. -/
def report : List String → List String
  | [] => []
  | [message] => [s!"Error: {message}"]
  | message :: cause :: _ => [s!"Error: {message}", "", "Caused by:", s!"    {cause}"]

variable {m : Type → Type} [Monad m]

/-- Where the settings come from when a file is named for them. A file that is not there is worth
a warning only. -/
def configurationSource (host : Host m) : Option String → m ConfigurationSource
  | none => return .standard
  | some path => do
      match ← host.isDirectory path with
      | .ok _ => return .file path
      | .error .notFound =>
          host.log ⟨.warn, s!"Config file not found: {Text.quoted path}"⟩
          return .standard
      | .error fault =>
          host.log ⟨.warn, s!"Failed to check config file exists: {fault.message}"⟩
          return .standard

/-- A step that fails for the reason of a fault. -/
def orFail {α : Type} (reason : Fault → ProgramError) (operation : m (Except Fault α)) :
    ExceptT ProgramError m α :=
  ExceptT.mk do
    match ← operation with
    | .ok value => return .ok value
    | .error fault => return .error (reason fault)

def configurationOfBytes (bytes : List UInt8) : Except ConfigurationError Configuration :=
  match Text.ofUtf8 bytes with
  | .ok text => Configuration.ofText text
  | .error _ => .error .malformed

def loadConfiguration (host : Host m) :
    ConfigurationSource → ExceptT ProgramError m Configuration
  | .standard => return .default
  | .file path => do
      if ← orFail .configurationFile (host.isDirectory path) then return .default
      let bytes ← orFail .configurationFile (host.readFile path)
      match configurationOfBytes bytes with
      | .ok configuration => return configuration
      | .error error => throw (.configuration error)

/-- Makes the log file, and the directories above it. -/
def openLog (host : Host m) : Option String → ExceptT ProgramError m Unit
  | none => return ()
  | some path => do
      match Files.Path.parent? path with
      | none => pure ()
      | some above => orFail .logFile (host.createDirectories above)
      orFail .logFile (host.openLog path)

/-- Does what a command line asks for, and gives the text that it shows. -/
def execute (host : Host m) (platform : String) (commandLine : CommandLine) :
    ExceptT ProgramError m String := do
  openLog host commandLine.logFile
  let source ← ExceptT.lift (configurationSource host commandLine.configFile)
  let configuration ← loadConfiguration host source
  match commandLine.subcommand with
  | .version => return Usage.versionReport platform
  | .ingress input output =>
      ExceptT.mk do
        match ← (Walk.run host configuration input output).run with
        | .ok _ => return .ok ""
        | .error error => return .error (.run error)

/-- What a run leaves that the words do not make. -/
def ofUsageError (error : UsageError) : Outcome :=
  match error with
  | .helpRequested place => ⟨error.exitStatus, Usage.help place, []⟩
  | .versionRequested => ⟨error.exitStatus, Usage.title ++ "\n", []⟩
  | _ => ⟨error.exitStatus, "", [s!"error: {Usage.complaint error}"]⟩

/-- A run with a filter for its log. -/
def run (host : Host m) (platform : String) (filter : LogFilter) (words : List String) :
    m Outcome := do
  match CommandLine.parse words with
  | .error error => return ofUsageError error
  | .ok commandLine =>
      match ← (execute (host.filtered filter) platform commandLine).run with
      | .ok output => return ⟨0, output, []⟩
      | .error error => return ⟨1, "", report error.messages⟩

end Program

end TraefikUpgrade
