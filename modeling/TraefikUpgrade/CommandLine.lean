/-!
Contract: the words of a command line.

Owns: the options and subcommands, the reading of the words, and why words are
refused. An option is long, `--name value` or `--name=value`, or short,
`-n value`, `-nvalue` or `-n=value`; no option is given twice in one place.
The words after a subcommand are read as a whole before the words in front of
it are found complete.

Does not own: the texts of the help and what a run does
(`TraefikUpgrade.Program`).
-/

set_option autoImplicit false

namespace TraefikUpgrade

inductive Subcommand where
  | ingress (input output : String)
  | version
deriving DecidableEq, Repr

structure CommandLine where
  configFile : Option String
  logFile : Option String
  subcommand : Subcommand
deriving DecidableEq, Repr

namespace CommandLine

inductive SubcommandName where
  | ingress
  | version
deriving DecidableEq, Repr

/-- Where a word stands: in front of the subcommand, or behind which one. -/
inductive Place where
  | front
  | behind (name : SubcommandName)
deriving DecidableEq, Repr

end CommandLine

inductive UsageError where
  | helpRequested (place : CommandLine.Place)
  | versionRequested
  | nothingGiven
  | missingSubcommand
  | unknownSubcommand
  | unknownArgument
  /-- An option that takes no value has one. -/
  | unexpectedValue
  /-- An option that takes a value has none, or the empty one. -/
  | missingValue
  | givenTwice
  | missingRequired
deriving DecidableEq, Repr

def UsageError.exitStatus : UsageError → Nat
  | .helpRequested _ | .versionRequested => 0
  | _ => 2

namespace CommandLine

def SubcommandName.ofWord? (word : String) : Option SubcommandName :=
  match word with
  | "ingress" => some .ingress
  | "version" => some .version
  | _ => none

/-- An option that takes a value. -/
inductive Setting where
  | configFile
  | logFile
  | input
  | output
deriving DecidableEq, Repr

inductive Switch where
  | setting (setting : Setting)
  | help
  | version
deriving DecidableEq, Repr

def long? (place : Place) (name : String) : Option Switch :=
  match place, name with
  | _, "config-file" => some (.setting .configFile)
  | _, "log-file" => some (.setting .logFile)
  | _, "help" => some .help
  | .front, "version" => some .version
  | .behind .ingress, "input" => some (.setting .input)
  | .behind .ingress, "output" => some (.setting .output)
  | _, _ => none

def short? (place : Place) (letter : Char) : Option Switch :=
  match place, letter with
  | _, 'h' => some .help
  | .front, 'V' => some .version
  | .behind .ingress, 'i' => some (.setting .input)
  | .behind .ingress, 'o' => some (.setting .output)
  | _, _ => none

abbrev Values := List (Setting × String)

def take (values : Values) (setting : Setting) (value : String) : Except UsageError Values :=
  if (values.lookup setting).isSome then .error .givenTwice
  else if value.isEmpty then .error .missingValue
  else .ok (values ++ [(setting, value)])

/-- The last option when its value stands in a word of its own. -/
structure Pending where
  setting : Setting
  value : Option String
deriving DecidableEq, Repr

structure Given where
  values : Values
  pending : Option Pending
deriving DecidableEq, Repr

namespace Given

def nothing : Given :=
  ⟨[], none⟩

def awaitsValue (given : Given) : Bool :=
  given.pending.any fun pending => pending.value.isNone

/-- Takes the value of the last option. -/
def settle (given : Given) : Except UsageError Values :=
  match given.pending with
  | none => .ok given.values
  | some ⟨setting, some value⟩ => take given.values setting value
  | some ⟨_, none⟩ => .error .missingValue

/-- The next option, with its value if that stands in the same word. -/
def switch (given : Given) (place : Place) (switch : Switch) (value : Option String) :
    Except UsageError Given := do
  match switch, value with
  | .setting setting, none =>
      let values ← given.settle
      return ⟨values, some ⟨setting, none⟩⟩
  | .setting setting, some value =>
      let values ← given.settle
      return ⟨← take values setting value, none⟩
  | _, some _ => .error .unexpectedValue
  | .help, none =>
      let _ ← given.settle
      .error (.helpRequested place)
  | .version, none =>
      let _ ← given.settle
      .error .versionRequested

end Given

inductive Word where
  /-- Two hyphens, behind which nothing is an option. -/
  | separator
  | long (name : String) (value : Option String)
  | short (letter : Char) (rest : List Char)
  | other
deriving DecidableEq, Repr

def isEquals (character : Char) : Bool :=
  character = '='

def Word.ofText (text : String) : Word :=
  match text.toList with
  | ['-', '-'] => .separator
  | '-' :: '-' :: rest =>
      let name := rest.takeWhile fun character => !isEquals character
      let value := rest.dropWhile fun character => !isEquals character
      .long (String.ofList name) (value.tail?.map String.ofList)
  | '-' :: letter :: rest => .short letter rest
  | _ => .other

/-- The value in the word of a short option, which an equals sign may precede. -/
def attachedValue? : List Char → Option String
  | [] => none
  | first :: rest => some (String.ofList (if isEquals first then rest else first :: rest))

/-- Why a word that is no option and no value is refused. -/
def refusal (place : Place) : UsageError :=
  match place with
  | .front => .unknownSubcommand
  | .behind _ => .unknownArgument

def refusalBehindSeparator (place : Place) (word : String) : UsageError :=
  if place = .front && (SubcommandName.ofWord? word).isSome then .unknownArgument
  else refusal place

/-- What the words in one place give, and the subcommand with the words behind it. -/
structure Reading where
  given : Given
  continuation : Option (SubcommandName × List String)
deriving DecidableEq, Repr

/-- The subcommand that a word starts; the value of an option starts none. -/
def subcommand? (place : Place) (given : Given) (word : String) : Option SubcommandName :=
  if place = .front && !given.awaitsValue then SubcommandName.ofWord? word else none

/-- Reads the words in one place. -/
def read (place : Place) (given : Given) : List String → Except UsageError Reading
  | [] => .ok ⟨given, none⟩
  | word :: rest =>
      match subcommand? place given word with
      | some name => .ok ⟨given, some (name, rest)⟩
      | none =>
          match Word.ofText word with
          | .separator =>
              match rest with
              | [] => .ok ⟨given, none⟩
              | next :: _ => .error (refusalBehindSeparator place next)
          | .long name value =>
              match long? place name with
              | none => .error .unknownArgument
              | some switch => do read place (← given.switch place switch value) rest
          | .short letter attached =>
              match short? place letter with
              | none => .error .unknownArgument
              | some (.setting setting) => do
                  let value := attachedValue? attached
                  read place (← given.switch place (.setting setting) value) rest
              | some switch => do read place (← given.switch place switch none) rest
          | .other =>
              match given.pending with
              | some ⟨setting, none⟩ =>
                  read place { given with pending := some ⟨setting, some word⟩ } rest
              | _ => .error (refusal place)

def defaultOutput : String := "./output"

def subcommandOf (name : SubcommandName) (values : Values) : Except UsageError Subcommand :=
  match name with
  | .version => .ok .version
  | .ingress =>
      match values.lookup .input with
      | none => .error .missingRequired
      | some input => .ok (.ingress input ((values.lookup .output).getD defaultOutput))

/-- Reads a command line, without the name of the program. An option behind the subcommand counts
before the same option in front of it. -/
def parse (words : List String) : Except UsageError CommandLine := do
  let front ← read .front .nothing words
  match front.continuation with
  | none =>
      let values ← front.given.settle
      .error (if values.isEmpty then .nothingGiven else .missingSubcommand)
  | some (name, rest) =>
      let behind ← read (.behind name) .nothing rest
      let inner ← behind.given.settle
      let subcommand ← subcommandOf name inner
      let outer ← front.given.settle
      return {
        configFile := inner.lookup .configFile <|> outer.lookup .configFile
        logFile := inner.lookup .logFile <|> outer.lookup .logFile
        subcommand }

end CommandLine

end TraefikUpgrade
