import TraefikUpgrade.Annotation.HeaderMap
import TraefikUpgrade.Decimal.Integer

/-!
Contract: the annotations of a resource, and typed readings of their values.

Owns: when an annotation is present (an empty one is not), and its value as a
flag, an integer, a comma list or a header map.

Does not own: the keys (`TraefikUpgrade.Annotation.Key`) and what the values
mean (`TraefikUpgrade.Directive`).
-/

set_option autoImplicit false

namespace TraefikUpgrade

/-- The annotations of a resource; `none` when it has no annotation map at all. -/
structure Annotations where
  map : Option TextMap
deriving DecidableEq, Repr

namespace Annotations

/-- The value of an annotation that is present and not empty. -/
def value? (annotations : Annotations) (key : String) : Option String :=
  (annotations.map.bind fun map => map.get? key).filter fun value => !value.isEmpty

def contains (annotations : Annotations) (key : String) : Bool :=
  (annotations.value? key).isSome

/-- The value, or the default without one. -/
def string (annotations : Annotations) (key fallback : String) : String :=
  (annotations.value? key).getD fallback

/-- The spellings of the truth values. -/
def flag? (text : String) : Option Bool :=
  if ["1", "t", "T", "TRUE", "true", "True"].contains text then some true
  else if ["0", "f", "F", "FALSE", "false", "False"].contains text then some false
  else none

/-- The flag, or the default when the value spells no truth value. -/
def flag (annotations : Annotations) (key : String) (fallback : Bool) : Bool :=
  ((annotations.value? key).bind flag?).getD fallback

/-- A decimal integer of 64 bits between blanks. -/
def integer? (text : String) : Option Int :=
  (Decimal.integer? (Text.trim text.toList)).filter Decimal.isInt64

/-- The integer, or the default when the value is none. -/
def integer (annotations : Annotations) (key : String) (fallback : Int) : Int :=
  ((annotations.value? key).bind integer?).getD fallback

/-- The entries of a comma list without the blanks around them and without blank entries. -/
def listEntries (text : String) : List String :=
  (((Text.fields (· = ',') text.toList).map Text.trim).filter fun entry => !entry.isEmpty).map
    String.ofList

/-- The entries of the comma list, if it has any. -/
def list? (annotations : Annotations) (key : String) : Option (List String) := do
  let entries := listEntries (← annotations.value? key)
  if entries.isEmpty then none else some entries

/-- The header map of an annotation, with warnings about what is malformed in it. -/
def headerMap (annotations : Annotations) (key : String) : Logged (Option TextMap) :=
  match annotations.value? key with
  | none => pure none
  | some text => Annotation.headerMap key text

end Annotations

end TraefikUpgrade
