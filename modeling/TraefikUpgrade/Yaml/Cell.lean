import TraefikUpgrade.Yaml.Character

/-!
Contract: the characters of a document together with their places.

Owns: cells, which are characters with their index, line and column, and the
cells of a text. The spellings of a line feed (CR, CR LF and NEL) become one
line feed, so that one cell is one break. A text with a character that no
document may hold has no cells.

Does not own: what cells make which token (`TraefikUpgrade.Yaml.Token`).
-/

set_option autoImplicit false

namespace TraefikUpgrade.Yaml

/-- A character and where it stands. -/
structure Cell where
  character : Char
  /-- The number of characters before it. -/
  index : Nat
  line : Nat
  column : Nat
deriving DecidableEq, Repr

namespace Cell

/-- The cells of readable characters, from a place on. -/
def placed (index line column : Nat) : List Char → List Cell
  | [] => []
  | '\r' :: '\n' :: rest =>
      ⟨'\n', index, line, column⟩ :: placed (index + 2) (line + 1) 0 rest
  | character :: rest =>
      if character = '\r' || character = '\u0085' then
        ⟨'\n', index, line, column⟩ :: placed (index + 1) (line + 1) 0 rest
      else if isBreak character then
        ⟨character, index, line, column⟩ :: placed (index + 1) (line + 1) 0 rest
      else ⟨character, index, line, column⟩ :: placed (index + 1) line (column + 1) rest

/-- The cells of a text, if all of it is readable. -/
def ofText? (text : String) : Option (List Cell) :=
  let characters := text.toList
  if characters.all isReadable then some (placed 0 0 0 characters) else none

end Cell

def characters (cells : List Cell) : List Char :=
  cells.map Cell.character

/-- Whether the cells are at an end, at spacing or at a break. -/
def cellsAtSpacingOrEnd : List Cell → Bool
  | [] => true
  | cell :: _ => isSpacingOrBreak cell.character

/-- Whether a line starts here with three times the character, followed by nothing or a space. -/
def isMarker (character : Char) (cells : List Cell) : Bool :=
  match cells with
  | first :: second :: third :: rest =>
      first.column = 0 && first.character = character && second.character = character &&
        third.character = character && cellsAtSpacingOrEnd rest
  | _ => false

/-- Whether a line starts here that starts or ends a document. -/
def isDocumentMarker (cells : List Cell) : Bool :=
  isMarker '-' cells || isMarker '.' cells

end TraefikUpgrade.Yaml
