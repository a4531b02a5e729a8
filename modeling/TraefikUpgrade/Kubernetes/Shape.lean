import TraefikUpgrade.Yaml.Content

/-!
Contract: content read by what its fields hold.

Owns: the shapes of fields, and the value of content of a shape. Where a text
is needed a scalar stands for its text, whatever else it spells; an empty
scalar stands for a list or an object with nothing in it. Fields without a
shape are dropped.

Does not own: which fields an object has, and content read as it is
(`TraefikUpgrade.Yaml.Content`).
-/

set_option autoImplicit false

namespace TraefikUpgrade.Kubernetes

open Yaml (Content TagRole Value)
open Yaml.Scalar (CoreTag)

/-- What a field holds. -/
inductive Shape where
  | text
  /-- What the content spells. -/
  | any
  | list (item : Shape)
  /-- Texts under any keys. -/
  | textMap
  | object (fields : List (String × Shape))

namespace Shape

def scalarText? : Content → Option String
  | .scalar _ _ spelling => some spelling
  | _ => none

/-- Whether content leaves a field unset; none for a null that does not spell null. -/
def isUnset? : Content → Option Bool
  | .scalar tag true spelling =>
      match TagRole.ofTag? tag with
      | some (.core .null) =>
          if (CoreTag.null.value? spelling).isSome then some true else none
      | some .untagged => some (Yaml.Scalar.plainValue? spelling = some .null)
      | _ => some false
  | _ => some false

mutual

/-- The value of content of a shape. -/
def read? (shape : Shape) : Content → Option Value
  | .scalar tag plain spelling =>
      match shape with
      | .text => some (.string spelling)
      | .any => (Content.scalar tag plain spelling).value?
      | .list _ => if spelling.isEmpty then some (.sequence []) else none
      | .textMap | .object _ => if spelling.isEmpty then some (.mapping []) else none
  | .sequence tag items =>
      match shape with
      | .any => (Content.sequence tag items).value?
      | .list item => (readItems? item items).map Value.sequence
      | _ => none
  | .mapping tag entries =>
      match shape with
      | .any => (Content.mapping tag entries).value?
      | .textMap => (readTexts? entries).map Value.mapping
      | .object fields => (readFields? fields entries).map Value.mapping
      | _ => none

def readItems? (shape : Shape) : List Content → Option (List Value)
  | [] => some []
  | item :: rest => do
      let value ← read? shape item
      return value :: (← readItems? shape rest)

def readTexts? : List (Content × Content) → Option (List (Value × Value))
  | [] => some []
  | (key, content) :: rest => do
      let name ← scalarText? key
      let value ← scalarText? content
      return (.string name, .string value) :: (← readTexts? rest)

def readFields? (fields : List (String × Shape)) :
    List (Content × Content) → Option (List (Value × Value))
  | [] => some []
  | (key, content) :: rest => do
      let name ← scalarText? key
      match fields.lookup name with
      | none => readFields? fields rest
      | some shape =>
          let value ← if ← isUnset? content then some .null else read? shape content
          return (.string name, value) :: (← readFields? fields rest)

end

end Shape

end TraefikUpgrade.Kubernetes
