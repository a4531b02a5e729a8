import TraefikUpgrade.Decimal.Integer
import TraefikUpgrade.Text.Utf8
import TraefikUpgrade.Yaml.Cell
import TraefikUpgrade.Yaml.Token.Basic

/-!
Contract: what stands before a node or a document: anchors, tags, directives.

Owns: the names of anchors and aliases, the two forms of tags with their
percent escapes, and the directives for the version and for tag handles.

Does not own: what a tag handle stands for (`TraefikUpgrade.Yaml.Node`).
-/

set_option autoImplicit false

namespace TraefikUpgrade.Yaml.Property

private def isNameCell (cell : Cell) : Bool :=
  isNameCharacter cell.character

/-- What may stand directly after the name of an anchor or alias. -/
def endsName : List Cell → Bool
  | [] => true
  | cell :: _ =>
      isSpacingOrBreak cell.character ||
        ['?', ':', ',', ']', '\x7d', '%', '@', '\x60'].contains cell.character

/-- The name of an anchor or alias, and the cells after it. -/
def name? (cells : List Cell) : Option (String × List Cell) :=
  let name := cells.takeWhile isNameCell
  let rest := cells.dropWhile isNameCell
  if !name.isEmpty && endsName rest then some (String.ofList (characters name), rest) else none

/-- The characters of a tag. Flow indicators belong to it only where nothing else ends it. -/
def isTagCharacter (allowsFlow : Bool) (character : Char) : Bool :=
  isNameCharacter character || ";/?:@&=+$.%!~*'()".toList.contains character ||
    (allowsFlow && (character = ',' || character = '[' || character = ']'))

/-- The bytes of a tag's text, where a percent sign and two hexadecimal digits are one byte. -/
def tagBytes? : List Char → Option (List UInt8)
  | [] => some []
  | '%' :: high :: low :: rest => do
      let high ← Decimal.digit? 16 high
      let low ← Decimal.digit? 16 low
      return UInt8.ofNat (high * 16 + low) :: (← tagBytes? rest)
  | character :: rest =>
      if character = '%' then none
      else do
        return Text.toUtf8 (String.singleton character) ++ (← tagBytes? rest)

def decodedTag? (text : List Char) : Option String :=
  (tagBytes? text).bind fun bytes => (Text.ofUtf8 bytes).toOption

/-- The longest run of tag characters, decoded, and the cells after it. -/
def tagText? (allowsFlow : Bool) (cells : List Cell) : Option (String × List Cell) := do
  let isPart (cell : Cell) : Bool := isTagCharacter allowsFlow cell.character
  let text ← decodedTag? (characters (cells.takeWhile isPart))
  return (text, cells.dropWhile isPart)

/-- The handle at the start of the cells: an exclamation mark, and then a name that ends with
another one if there is one. -/
def handle (cells : List Cell) : String × List Cell :=
  let name := (cells.drop 1).takeWhile isNameCell
  let rest := (cells.drop 1).dropWhile isNameCell
  match rest with
  | [] => (String.ofList ('!' :: characters name), [])
  | cell :: following =>
      if cell.character = '!' then
        (String.ofList ('!' :: characters name ++ ['!']), following)
      else (String.ofList ('!' :: characters name), rest)

/-- A handle that is delimited by exclamation marks. -/
def isNamedHandle (handle : String) : Bool :=
  1 < handle.length && handle.toList.getLast? = some '!'

/-- The tag whose exclamation mark starts the cells, as handle and suffix. -/
def tagParts? (cells : List Cell) : Option (String × String × List Cell) :=
  match cells.drop 1 with
  | [] => some ("", "!", [])
  | next :: following =>
      if next.character = '<' then do
        let (text, rest) ← tagText? true following
        match rest with
        | [] => none
        | cell :: after => if cell.character = '>' && !text.isEmpty then some ("", text, after) else none
      else
        let (start, rest) := handle cells
        if isNamedHandle start then do
          let (text, rest) ← tagText? false rest
          if text.isEmpty then none else some (start, text, rest)
        else do
          let (text, rest) ← tagText? false (cells.drop 1)
          some (if text.isEmpty then ("", "!", rest) else ("!", text, rest))

/-- The tag token at the start of the cells. Spacing, the end or, in a flow collection, a comma
must follow it. -/
def tag? (inFlow : Bool) (cells : List Cell) : Option (Token × List Cell) := do
  let (handle, suffix, rest) ← tagParts? cells
  let endsInFlow := inFlow && rest.head?.any fun cell => cell.character = ','
  if cellsAtSpacingOrEnd rest || endsInFlow then some (.tag handle suffix, rest) else none

/-! Directives, which are read off the characters of one line. -/

private def dropSpacing (line : List Char) : List Char :=
  line.dropWhile isSpacing

/-- Nothing but spacing and a comment. -/
def endsDirective (line : List Char) : Bool :=
  match dropSpacing line with
  | [] => true
  | character :: _ => character = '#'

/-- A part of a version number, of at most nine digits, and what follows it. -/
def versionPart? (line : List Char) : Option (Nat × List Char) := do
  let digits := line.takeWhile Char.isDigit
  let value ← Decimal.natural? 10 digits
  if 9 < digits.length then none else some (value, line.dropWhile Char.isDigit)

/-- The version directive: 1.1 or 1.2. -/
def versionDirective? (line : List Char) : Option Token := do
  let (major, rest) ← versionPart? (dropSpacing line)
  match rest with
  | '.' :: rest =>
      let (minor, rest) ← versionPart? rest
      if major = 1 && (minor = 1 || minor = 2) && endsDirective rest then some .versionDirective
      else none
  | _ => none

def directiveHandle? (line : List Char) : Option (String × List Char) :=
  match line with
  | '!' :: rest =>
      let name := rest.takeWhile isNameCharacter
      match rest.dropWhile isNameCharacter with
      | '!' :: following => some (String.ofList ('!' :: name ++ ['!']), following)
      | following => if name.isEmpty then some ("!", following) else none
  | _ => none

/-- The directive that gives a handle its meaning. -/
def tagDirective? (line : List Char) : Option Token := do
  let (handle, rest) ← directiveHandle? (dropSpacing line)
  if !rest.head?.any isSpacing then none
  else
    let rest := dropSpacing rest
    let start ← decodedTag? (rest.takeWhile (isTagCharacter true))
    let rest := rest.dropWhile (isTagCharacter true)
    if !start.isEmpty && (rest.isEmpty || rest.head?.any isSpacing) && endsDirective rest then
      some (.tagDirective handle start)
    else none

/-- The directive of a line, from what follows the percent sign. -/
def directive? (line : List Char) : Option Token :=
  let name := line.takeWhile isNameCharacter
  let rest := line.dropWhile isNameCharacter
  if !(rest.isEmpty || rest.head?.any isSpacing) then none
  else if name = "YAML".toList then versionDirective? rest
  else if name = "TAG".toList then tagDirective? rest
  else none

end TraefikUpgrade.Yaml.Property
