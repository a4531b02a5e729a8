import TraefikUpgrade.Text.Utf8
import TraefikUpgrade.Yaml.Style

/-!
Contract: the text that is written for a value.

Owns: the block layout. Each node is written at a place, after the mark that
introduces it, and ends with the break of its last line. Nested mappings and
sequences are two columns further in, except that the items of a sequence
under a key stand in the column of the key.

Does not own: the presentation of single texts (`TraefikUpgrade.Yaml.Style`).
-/

set_option autoImplicit false

namespace TraefikUpgrade.Yaml

namespace Writer

/-- What a node is written after. -/
inductive Place where
  /-- Nothing: the node is the document. -/
  | document
  /-- The hyphen of an item. -/
  | item
  /-- A key on the same line. -/
  | value
  /-- The mark of a key or value that has no key on the same line. -/
  | marked
deriving DecidableEq, Repr

def Place.gap : Place → List Char
  | .document => []
  | _ => [' ']

/-- The column of a mapping, where `column` is that of the collection around it. -/
def Place.mappingColumn (column : Nat) : Place → Nat
  | .document => 0
  | _ => column + 2

def Place.sequenceColumn (column : Nat) : Place → Nat
  | .document => 0
  | .value => column
  | _ => column + 2

/-- The column of the further lines of a scalar. -/
def Place.continuationColumn (column : Nat) : Place → Nat
  | .document => 2
  | _ => column + 2

def spaces (count : Nat) : List Char :=
  List.replicate count ' '

/-- What stands between the mark and the first entry of a collection at the column. -/
def Place.opening (place : Place) (column : Nat) (tag : List Char) : List Char :=
  if tag.isEmpty then
    match place with
    | .document => []
    | .value => '\n' :: spaces column
    | _ => [' ']
  else place.gap ++ tag ++ '\n' :: spaces column

def isTagCharacter (character : Char) : Bool :=
  isNameCharacter character || ";/?:@&=+$,.~*'()[]".toList.contains character

private def percentByte (byte : UInt8) : List Char :=
  let digits := (Nat.toDigits 16 byte.toNat).map Char.toUpper
  '%' :: List.replicate (2 - digits.length) '0' ++ digits

/-- A local tag, which starts with an exclamation mark, as it is written. -/
def tagText (tag : String) : List Char :=
  match tag.toList with
  | [] => []
  | mark :: name =>
      mark :: name.flatMap fun character =>
        if isTagCharacter character then [character]
        else (Text.toUtf8 (String.singleton character)).flatMap percentByte

/-- The text of a scalar and the style it is written in; none for collections. -/
def scalar? : Value → Option (Style × List Char)
  | .null => some (.plain, "null".toList)
  | .bool value => some (.plain, (if value then "true" else "false").toList)
  | .integer value => some (.plain, (toString value).toList)
  | .float value => some (.plain, value.text.toList)
  | .string text => some (Style.ofText text, text.toList)
  | _ => none

def endLine (text : List Char) : List Char :=
  if text.getLast?.any isBreak then text else text ++ ['\n']

def tagBefore (tag : List Char) : List Char :=
  if tag.isEmpty then [] else tag ++ [' ']

def scalarNode (place : Place) (column : Nat) (tag : List Char) (style : Style)
    (text : List Char) : List Char :=
  place.gap ++ tagBefore tag ++
    endLine (style.render (place.continuationColumn column) text)

/-- The greatest length in bytes of a key that stands on the line of its value. -/
def greatestKeyLength : Nat := 128

def byteLength (text : List Char) : Nat :=
  (Text.toUtf8 (String.ofList text)).length

/-- A key as it stands before a colon on the same line, if it can stand there: a short scalar
without line breaks, or an empty collection. -/
def keyText? (tag : List Char) : Value → Option (List Char)
  | .sequence [] =>
      if byteLength tag ≤ greatestKeyLength then some (tagBefore tag ++ ['[', ']']) else none
  | .mapping [] =>
      if byteLength tag ≤ greatestKeyLength then some (tagBefore tag ++ ['\x7b', '\x7d'])
      else none
  | .tagged _ _ => none
  | value => do
      let (style, text) ← scalar? value
      if text.any isBreak || greatestKeyLength < byteLength text + byteLength tag then none
      else some (tagBefore tag ++ style.render 0 text)

def simpleKey? : Value → Option (List Char)
  | .tagged tag value => keyText? (tagText tag) value
  | value => keyText? [] value

mutual

/-- What is written for a value after the mark of its place. -/
def node (place : Place) (column : Nat) (tag : List Char) : Value → List Char
  | .tagged inner value => node place column (tagText inner) value
  | .sequence [] => place.gap ++ tagBefore tag ++ ['[', ']', '\n']
  | .mapping [] => place.gap ++ tagBefore tag ++ ['\x7b', '\x7d', '\n']
  | .sequence items =>
      let inside := place.sequenceColumn column
      place.opening inside tag ++ itemLines inside items
  | .mapping entries =>
      let inside := place.mappingColumn column
      place.opening inside tag ++ entryLines inside entries
  | value =>
      match scalar? value with
      | some (style, text) => scalarNode place column tag style text
      | none => []

/-- The items of a sequence, where the first one starts in the right column already. -/
def itemLines (column : Nat) : List Value → List Char
  | [] => []
  | item :: rest =>
      '-' :: node .item column [] item ++ (if rest.isEmpty then [] else spaces column) ++
        itemLines column rest

/-- The entries of a mapping, where the first one starts in the right column already. -/
def entryLines (column : Nat) : List (Value × Value) → List Char
  | [] => []
  | (key, value) :: rest =>
      (match simpleKey? key with
        | some text => text ++ ':' :: node .value column [] value
        | none =>
            '?' :: node .marked column [] key ++ spaces column ++
              ':' :: node .marked column [] value) ++
        (if rest.isEmpty then [] else spaces column) ++ entryLines column rest

end

end Writer

def render (value : Value) : String :=
  String.ofList (Writer.node .document 0 [] value)

end TraefikUpgrade.Yaml
