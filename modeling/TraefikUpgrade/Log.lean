/-!
Contract: log records, and results that carry them.

Owns: the levels and their order of severity, records, and `Logged`, a value
together with the records that its computation produced, in order. Nothing in
the library writes a record; the records of a computation are part of its
result, and the outermost layer decides which of them are shown.

Does not own: the texts of records, which stand with the rules that log them.
-/

set_option autoImplicit false

namespace TraefikUpgrade

/-- How severe a record is, the most severe first. -/
inductive LogLevel where
  | error
  | warn
  | info
  | debug
deriving DecidableEq, Repr

namespace LogLevel

def name : LogLevel → String
  | .error => "ERROR"
  | .warn => "WARN"
  | .info => "INFO"
  | .debug => "DEBUG"

/-- How many levels are at most as verbose as this one. -/
def verbosity : LogLevel → Nat
  | .error => 1
  | .warn => 2
  | .info => 3
  | .debug => 4

end LogLevel

structure LogRecord where
  level : LogLevel
  message : String
deriving DecidableEq, Repr

/-- The record as one line of a console. -/
def LogRecord.line (record : LogRecord) : String :=
  s!"{record.level.name} - {record.message}"

/-- The greatest verbosity that is shown. -/
structure LogFilter where
  verbosity : Nat
deriving DecidableEq, Repr

namespace LogFilter

private def lowerAscii (text : String) : String :=
  String.ofList (text.toList.map Char.toLower)

/-- The filter named by a text in any case of its letters. -/
def named? (text : String) : Option LogFilter :=
  match lowerAscii text with
  | "off" => some ⟨0⟩
  | "error" => some ⟨1⟩
  | "warn" => some ⟨2⟩
  | "info" => some ⟨3⟩
  | "debug" => some ⟨4⟩
  | "trace" => some ⟨5⟩
  | _ => none

/-- The filter that a setting asks for; without a usable setting, informational records are the
last ones shown. -/
def ofSetting (setting : Option String) : LogFilter :=
  (setting.bind named?).getD ⟨3⟩

def shows (filter : LogFilter) (record : LogRecord) : Bool :=
  record.level.verbosity ≤ filter.verbosity

end LogFilter

/-- A value and the records of the computation that produced it. -/
structure Logged (α : Type) where
  value : α
  records : List LogRecord
deriving DecidableEq, Repr

namespace Logged

variable {α β : Type}

def silent (value : α) : Logged α :=
  ⟨value, []⟩

def bind (first : Logged α) (next : α → Logged β) : Logged β :=
  ⟨(next first.value).value, first.records ++ (next first.value).records⟩

instance : Monad Logged where
  pure := silent
  bind := bind

def log (level : LogLevel) (message : String) : Logged Unit :=
  ⟨(), [⟨level, message⟩]⟩

@[simp] theorem value_pure (value : α) : (pure value : Logged α).value = value := rfl

@[simp] theorem records_pure (value : α) : (pure value : Logged α).records = [] := rfl

@[simp] theorem value_bind (first : Logged α) (next : α → Logged β) :
    (first >>= next).value = (next first.value).value := rfl

@[simp] theorem records_bind (first : Logged α) (next : α → Logged β) :
    (first >>= next).records = first.records ++ (next first.value).records := rfl

instance : LawfulMonad Logged :=
  LawfulMonad.mk' Logged
    (fun computation => by cases computation; simp [Functor.map, bind, silent])
    (fun value next => by simp [Bind.bind, Pure.pure, bind, silent])
    (fun first second third => by simp [Bind.bind, bind])

end Logged

end TraefikUpgrade
