import TraefikUpgrade.Decimal.Integer
import TraefikUpgrade.Yaml.Cell

/-!
Contract: block scalars.

Owns: the header after the bar or angle of a block scalar, the indentation of
its lines, and its text: line by line in a literal one, with lines folded in a
folded one, and with the last breaks clipped, stripped or kept.

Does not own: scalars inside a line.
-/

set_option autoImplicit false

namespace TraefikUpgrade.Yaml.Block

/-- What becomes of the breaks at the end of the text. -/
inductive Chomping where
  | clip
  | strip
  | keep
deriving DecidableEq, Repr

/-- The header of a block scalar. -/
structure Header where
  chomping : Chomping
  /-- The indentation relative to the surrounding collection, when it is given. -/
  indentation : Option Nat
deriving DecidableEq, Repr

def chomping? (character : Char) : Option Chomping :=
  if character = '+' then some .keep
  else if character = '-' then some .strip
  else none

def indentation? (character : Char) : Option Nat :=
  (Decimal.digit? 10 character).filter fun digit => digit ≠ 0

/-- The header for the marks that stand before the first spacing, in either order. -/
def headerOf? : List Char → Option Header
  | [] => some ⟨.clip, none⟩
  | [mark] =>
      match chomping? mark with
      | some chomping => some ⟨chomping, none⟩
      | none => (indentation? mark).map fun digit => ⟨.clip, some digit⟩
  | [first, second] =>
      match chomping? first with
      | some chomping => (indentation? second).map fun digit => ⟨chomping, some digit⟩
      | none => do
          let digit ← indentation? first
          let chomping ← chomping? second
          return ⟨chomping, some digit⟩
  | _ => none

private def isHeaderMark (cell : Cell) : Bool :=
  cell.character = '+' || cell.character = '-' || cell.character.isDigit

/-- The header at the start of the cells, and the cells after its line. Only spacing and a comment
may stand after the marks. -/
def header? (cells : List Cell) : Option (Header × List Cell) := do
  let header ← headerOf? (characters (cells.takeWhile isHeaderMark))
  match (cells.dropWhile isHeaderMark).dropWhile fun cell => isSpacing cell.character with
  | [] => return (header, [])
  | cell :: rest =>
      if isBreak cell.character then return (header, rest)
      else if cell.character = '#' then
        return (header, (rest.dropWhile fun cell => !isBreak cell.character).drop 1)
      else none

/-- Lines without text before a line with text, or before the end. -/
structure EmptyLines where
  /-- The greatest column that spaces reach. -/
  deepest : Nat
  breaks : List Char
  rest : List Cell

/-- The empty lines at the start of the cells. Spaces belong to them up to the column `limit`, and
any number of them without a limit; a tab cannot stand for these spaces. -/
def emptyLines? (limit : Option Nat) (deepest : Nat) : List Cell → Option EmptyLines
  | [] => some ⟨deepest, [], []⟩
  | cell :: rest =>
      let isIndentation := limit.all (cell.column < ·)
      let deepest := max deepest cell.column
      if isIndentation && cell.character = ' ' then emptyLines? limit deepest rest
      else if isIndentation && cell.character = '\t' then none
      else if isBreak cell.character then do
        let lines ← emptyLines? limit deepest rest
        return { lines with breaks := cell.character :: lines.breaks }
      else some ⟨deepest, [], cell :: rest⟩

/-- What stands between the lines with text of a block scalar. -/
structure Separation where
  /-- The break that ends the line before. -/
  ending : List Char
  /-- Whether the line before starts with spacing. -/
  afterSpacing : Bool
  /-- The breaks of the empty lines after it. -/
  further : List Char

/-- What the separation stands for before a line that starts with spacing or not. -/
def Separation.folded (separation : Separation) (folds beforeSpacing : Bool) : List Char :=
  if folds && separation.ending = ['\n'] && !separation.afterSpacing && !beforeSpacing then
    if separation.further.isEmpty then [' '] else separation.further
  else separation.ending ++ separation.further

/-- What the separation stands for at the end of the text. -/
def Separation.chomped (separation : Separation) (chomping : Chomping) : List Char :=
  match chomping with
  | .strip => []
  | .clip => separation.ending
  | .keep => separation.ending ++ separation.further

/-- The text of the lines in the column, after a separation, and the cells after them. -/
def lines? (folds : Bool) (chomping : Chomping) (column : Nat) :
    (steps : Nat) → Separation → List Cell → Option (List Char × List Cell)
  | 0, _, _ => none
  | _ + 1, separation, [] => some (separation.chomped chomping, [])
  | steps + 1, separation, cell :: rest =>
      if cell.column = column then do
        let startsWithSpacing := isSpacing cell.character
        let line := (cell :: rest).takeWhile fun cell => !isBreak cell.character
        let following := (cell :: rest).dropWhile fun cell => !isBreak cell.character
        let empty ← emptyLines? (some column) 0 (following.drop 1)
        let next : Separation :=
          ⟨(following.head?.map Cell.character).toList, startsWithSpacing, empty.breaks⟩
        let (text, after) ← lines? folds chomping column steps next empty.rest
        return (separation.folded folds startsWithSpacing ++ characters line ++ text, after)
      else some (separation.chomped chomping, cell :: rest)

/-- The text of a block scalar from its header on, and the cells after it. `parent` is the column
of the surrounding collection, -1 outside of any. -/
def read? (folds : Bool) (parent : Int) (cells : List Cell) :
    Option (List Char × List Cell) := do
  let (header, cells) ← header? cells
  let given := header.indentation.map fun digit => digit + parent.toNat
  let empty ← emptyLines? given 0 cells
  let column := given.getD (max empty.deepest (max (parent + 1).toNat 1))
  lines? folds header.chomping column (cells.length + 1) ⟨[], false, empty.breaks⟩ empty.rest

end TraefikUpgrade.Yaml.Block
