import TraefikUpgrade.Decimal.Integer
import TraefikUpgrade.Text.Map
import TraefikUpgrade.Yaml.Value

/-!
Contract: the fields of objects, read strictly.

Owns: the fields of an object in a value, the readings of single fields, and
the entries that are written for fields. No kind of value stands for another
one: a number is no text. Null stands for a field that is not there. Tags
around values are ignored.

Does not own: which fields an object has.
-/

set_option autoImplicit false

namespace TraefikUpgrade.Kubernetes

open Yaml (Value)

/-- Whether null stands for an object or a list with nothing in it where one is needed, as in a
document, or cannot stand there, as in JSON. -/
inductive NullObject where
  | empty
  | refused
deriving DecidableEq, Repr

/-- Named values, in the order in which they stand. -/
abbrev Fields := List (String × Value)

/-- The entries of a mapping whose keys are all texts. -/
def named? (entries : List (Value × Value)) : Option Fields :=
  entries.mapM fun (key, value) => key.text?.map fun name => (name, value)

def object? (nullObject : NullObject) (value : Value) : Option Fields :=
  match value.untagged with
  | .mapping entries => named? entries
  | .null => if nullObject = .empty then some [] else none
  | _ => none

namespace Fields

/-- The value of a field; of two the last one counts. -/
def get? (fields : Fields) (name : String) : Option Value :=
  (fields.reverse.find? fun field => field.1 = name).map Prod.snd

/-- No name of the given ones stands twice. -/
def distinct (fields : Fields) (names : List String) : Bool :=
  names.all fun name => (fields.filter fun field => field.1 = name).length ≤ 1

variable {α : Type}

/-- The reading of a field, or none when the field is null or not there. -/
def optional (fields : Fields) (name : String) (read : Value → Option α) :
    Option (Option α) :=
  match fields.get? name with
  | none => some none
  | some .null => some none
  | some value => (read value).map some

/-- The reading of a field, or a default when the field is null or not there. -/
def orDefault (fields : Fields) (name : String) (read : Value → Option α) (fallback : α) :
    Option α :=
  (fields.optional name read).map fun value => value.getD fallback

/-- The reading of a field that has to be there. -/
def required (fields : Fields) (name : String) (read : Value → Option α) : Option α :=
  (fields.get? name).bind read

end Fields

/-- The fields of a record, which is written as an object or as the list of its fields in order,
of which the first `least` have to be there. No field of a record may stand twice. -/
def record? (nullObject : NullObject) (names : List String) (least : Nat) (value : Value) :
    Option Fields :=
  match value.untagged with
  | .sequence items =>
      if least ≤ items.length && items.length ≤ names.length then some (names.zip items)
      else none
  | _ => (object? nullObject value).filter fun fields => fields.distinct names

/-! Readings of single values. -/

def bool? (value : Value) : Option Bool :=
  match value.untagged with
  | .bool value => some value
  | _ => none

def integer? (value : Value) : Option Int :=
  match value.untagged with
  | .integer value => some value
  | _ => none

def int64? (value : Value) : Option Int :=
  (integer? value).filter Decimal.isInt64

def int32? (value : Value) : Option Int :=
  (integer? value).filter Decimal.isInt32

def list? {α : Type} (nullObject : NullObject) (read : Value → Option α) (value : Value) :
    Option (List α) :=
  match value.untagged with
  | .sequence items => items.mapM read
  | .null => if nullObject = .empty then some [] else none
  | _ => none

def texts? (nullObject : NullObject) (value : Value) : Option (List String) :=
  list? nullObject Value.text? value

def textMap? (nullObject : NullObject) (value : Value) : Option TextMap := do
  let fields ← object? nullObject value
  let entries ← fields.mapM fun (name, value) => value.text?.map fun text => (name, text)
  return TextMap.ofList entries

/-! Writing. -/

/-- A field that is always written. -/
def written (name : String) (value : Value) : Fields :=
  [(name, value)]

/-- A field that is written when it is set. -/
def writtenIfSet {α : Type} (name : String) (write : α → Value) (value : Option α) : Fields :=
  match value with
  | none => []
  | some value => [(name, write value)]

def ofFields (fields : Fields) : Value :=
  .mapping (fields.map fun (name, value) => (.string name, value))

def ofList {α : Type} (write : α → Value) (items : List α) : Value :=
  .sequence (items.map write)

def ofTexts (texts : List String) : Value :=
  ofList .string texts

def ofTextMap (map : TextMap) : Value :=
  .mapping (map.toList.map fun (name, text) => (.string name, .string text))

end TraefikUpgrade.Kubernetes
