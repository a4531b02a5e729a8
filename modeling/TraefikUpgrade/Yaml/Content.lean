import TraefikUpgrade.Yaml.Scalar

/-!
Contract: the content of a document, aliases expanded and scalars unread.

Owns: content, and the value that content stands for. Tags of the core schema
decide what a scalar is, a local tag is kept on the value, and any other tag
makes a scalar a string. A mapping with two entries of one key has no value.

Does not own: where content comes from (`TraefikUpgrade.Yaml.Alias`), and what
scalars spell (`TraefikUpgrade.Yaml.Scalar`).
-/

set_option autoImplicit false

namespace TraefikUpgrade.Yaml

/-- A node without aliases, whose scalars are texts, plain or quoted. -/
inductive Content where
  | scalar (tag : Option String) (plain : Bool) (text : String)
  | sequence (tag : Option String) (items : List Content)
  | mapping (tag : Option String) (entries : List (Content × Content))
deriving Repr

/-- What a tag says about a node. -/
inductive TagRole where
  /-- Nothing is said. -/
  | untagged
  /-- A scalar is of the named kind. -/
  | core (tag : Scalar.CoreTag)
  /-- The value keeps the tag. -/
  | kept (tag : String)
  /-- A scalar is a string. -/
  | foreign
deriving DecidableEq, Repr

namespace TagRole

/-- The name of a local tag, from what follows its first exclamation mark. A second mark is not
part of the name unless it is all of it. -/
def localName : List Char → List Char
  | ['!'] => ['!']
  | '!' :: name => name
  | name => name

/-- The role of a tag; the non-specific one has none. -/
def ofTag? : Option String → Option TagRole
  | none => some .untagged
  | some tag =>
      match tag.toList with
      | ['!'] => none
      | '!' :: name => some (.kept (String.ofList ('!' :: localName name)))
      | _ =>
          some (match tag with
            | "tag:yaml.org,2002:null" => .core .null
            | "tag:yaml.org,2002:bool" => .core .bool
            | "tag:yaml.org,2002:int" => .core .integer
            | "tag:yaml.org,2002:float" => .core .float
            | _ => .foreign)

/-- The value of a scalar whose tag has the role. -/
def scalarValue? (role : TagRole) (plain : Bool) (text : String) : Option Value :=
  let untagged := if plain then Scalar.plainValue? text else some (.string text)
  match role with
  | .untagged => untagged
  | .core tag => tag.value? text
  | .kept tag => untagged.map (.tagged tag)
  | .foreign => some (.string text)

def collectionValue (role : TagRole) (value : Value) : Value :=
  match role with
  | .kept tag => .tagged tag value
  | _ => value

end TagRole

namespace Content

def hasKey (key : Value) (entries : List (Value × Value)) : Bool :=
  entries.any fun entry => key.sameKey entry.1

mutual

def value? : Content → Option Value
  | .scalar tag plain text => do (← TagRole.ofTag? tag).scalarValue? plain text
  | .sequence tag items => do
      let role ← TagRole.ofTag? tag
      return role.collectionValue (.sequence (← itemValues? items))
  | .mapping tag entries => do
      let role ← TagRole.ofTag? tag
      return role.collectionValue (.mapping (← entryValues? entries))

def itemValues? : List Content → Option (List Value)
  | [] => some []
  | item :: rest => do
      let value ← value? item
      return value :: (← itemValues? rest)

def entryValues? : List (Content × Content) → Option (List (Value × Value))
  | [] => some []
  | (key, value) :: rest => do
      let key ← value? key
      let value ← value? value
      let following ← entryValues? rest
      if hasKey key following then none else some ((key, value) :: following)

end

end Content

end TraefikUpgrade.Yaml
