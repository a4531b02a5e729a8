import TraefikUpgrade.Yaml.Token.Block
import TraefikUpgrade.Yaml.Token.Plain
import TraefikUpgrade.Yaml.Token.Property
import TraefikUpgrade.Yaml.Token.Quoted

/-!
Contract: a document as a sequence of tokens.

Owns: the cutting of a text into tokens. Two things are decided from columns
and lines and not from marks: where block collections start and end, and that a
node before a colon was a key. Such a node is remembered as a candidate, and
the tokens of a key are put before it when the colon comes.

Does not own: the parts that make up single tokens, and the grammar of tokens
(`TraefikUpgrade.Yaml.Node`).
-/

set_option autoImplicit false

namespace TraefikUpgrade.Yaml

/-- A node that is a key if a colon follows it. -/
structure Candidate where
  /-- The number of tokens before the node. -/
  position : Nat
  cell : Cell
  /-- Whether the node stands where only a key can stand. -/
  isRequired : Bool
deriving DecidableEq, Repr

/-- The greatest number of characters between the start of a key and its colon. -/
def greatestKeyDistance : Nat := 1024

/-- Whether the node can still be a key when the reading has come to a cell. -/
def Candidate.isCurrent (candidate : Candidate) (cell : Cell) : Bool :=
  candidate.cell.line = cell.line && cell.index ≤ candidate.cell.index + greatestKeyDistance

/-- What a reading has come to. -/
structure Scan where
  /-- The tokens so far, the last one first. -/
  reversed : List Token
  /-- The candidate of the innermost flow collection, or of the block outside of any. -/
  candidate : Option Candidate
  /-- The candidates of the surrounding flow collections and of the block, from the inside out. -/
  outerCandidates : List (Option Candidate)
  /-- The columns of the open block collections, from the inside out. -/
  columns : List Nat
  /-- Whether a key can start here. -/
  allowsKey : Bool
deriving Repr

namespace Scan

def start : Scan :=
  ⟨[], none, [], [], true⟩

def inFlow (scan : Scan) : Bool :=
  !scan.outerCandidates.isEmpty

/-- The column of the innermost block collection, -1 outside of any. -/
def column (scan : Scan) : Int :=
  match scan.columns with
  | [] => -1
  | column :: _ => column

def push (scan : Scan) (token : Token) : Scan :=
  { scan with reversed := token :: scan.reversed }

/-- Puts a token at a position counted from the first token. -/
def insertAt (scan : Scan) (position : Nat) (token : Token) : Scan :=
  { scan with reversed := scan.reversed.insertIdx (scan.reversed.length - position) token }

def setAllowsKey (scan : Scan) (allowsKey : Bool) : Scan :=
  { scan with allowsKey }

/-- Gives up the candidate; one that stands where only a key can stand cannot be given up. -/
def dropCandidate (scan : Scan) : Option Scan :=
  if scan.candidate.any Candidate.isRequired then none else some { scan with candidate := none }

/-- Makes the node that starts at a cell the candidate, where a key can start. -/
def saveCandidate (scan : Scan) (cell : Cell) : Option Scan :=
  if scan.allowsKey then do
    let isRequired := !scan.inFlow && scan.column = cell.column
    let scan ← scan.dropCandidate
    return { scan with candidate := some ⟨scan.reversed.length, cell, isRequired⟩ }
  else some scan

/-- Opens a block collection in the column, unless the column belongs to an open one. `position`
is where its first token stands. -/
def openBlock (scan : Scan) (column position : Nat) (token : Token) : Scan :=
  if !scan.inFlow && scan.column < column then
    { scan.insertAt position token with columns := column :: scan.columns }
  else scan

/-- Closes the block collections that are further in than the column. -/
def closeColumns (column : Int) : List Nat → List Token → List Nat × List Token
  | [], reversed => ([], reversed)
  | innermost :: outer, reversed =>
      if column < innermost then closeColumns column outer (.blockEnd :: reversed)
      else (innermost :: outer, reversed)

def closeBlocks (scan : Scan) (column : Int) : Scan :=
  if scan.inFlow then scan
  else
    let (columns, reversed) := closeColumns column scan.columns scan.reversed
    { scan with columns, reversed }

/-- A start or end mark of a document, or a directive, closes everything. -/
def closeAll (scan : Scan) : Option Scan := do
  let scan ← (scan.closeBlocks (-1)).dropCandidate
  return scan.setAllowsKey false

def openFlow (scan : Scan) (cell : Cell) (token : Token) : Option Scan := do
  let scan ← scan.saveCandidate cell
  return { scan.push token with
    candidate := none
    outerCandidates := scan.candidate :: scan.outerCandidates
    allowsKey := true }

def closeFlow (scan : Scan) (token : Token) : Option Scan := do
  let scan ← (scan.push token).dropCandidate
  let scan := scan.setAllowsKey false
  return match scan.outerCandidates with
    | [] => scan
    | candidate :: outer => { scan with candidate, outerCandidates := outer }

/-- A mark that starts an entry of a block collection, or of a flow collection. -/
def blockMark (scan : Scan) (cell : Cell) (collection mark : Token) : Option Scan :=
  if !scan.inFlow && !scan.allowsKey then none
  else ((scan.openBlock cell.column scan.reversed.length collection).push mark).dropCandidate

/-- A colon: the candidate becomes a key, or the key is empty or was marked before. -/
def colon (scan : Scan) (cell : Cell) : Option Scan :=
  match scan.candidate with
  | some candidate =>
      if candidate.isCurrent cell then
        let scan := scan.insertAt candidate.position .key
        let scan := scan.openBlock candidate.cell.column candidate.position .blockMappingStart
        some { scan.push .value with candidate := none, allowsKey := false }
      else if candidate.isRequired then none
      else lone scan
  | none => lone scan
where
  /-- A colon without a candidate before it. -/
  lone (scan : Scan) : Option Scan :=
    if !scan.inFlow && !scan.allowsKey then none
    else
      let scan := scan.openBlock cell.column scan.reversed.length .blockMappingStart
      some ((scan.push .value).setAllowsKey (!scan.inFlow))

/-- Goes over spacing, comments and breaks. Tabs are no indentation, and after a break a key can
start in a block. -/
def toToken (inFlow allowsKey inComment : Bool) : List Cell → Bool × List Cell
  | [] => (allowsKey, [])
  | cell :: rest =>
      if isBreak cell.character then toToken inFlow (allowsKey || !inFlow) false rest
      else if inComment then toToken inFlow allowsKey true rest
      else if cell.character = '#' then toToken inFlow allowsKey true rest
      else if cell.character = ' ' || ((inFlow || !allowsKey) && cell.character = '\t') ||
          (cell.column = 0 && cell.character = byteOrderMark) then
        toToken inFlow allowsKey false rest
      else (allowsKey, cell :: rest)

/-- What a token starts with that is no plain scalar. -/
def isIndicator (character : Char) : Bool :=
  "-?:,[]\x7b\x7d#&*!|>'\"%@\x60".toList.contains character

/-- Whether a plain scalar starts at the cell. -/
def startsPlain (inFlow : Bool) (cell : Cell) (rest : List Cell) : Bool :=
  (!isSpacing cell.character && !isIndicator cell.character) ||
    (cell.character = '-' && !rest.head?.any fun next => isSpacing next.character) ||
    (!inFlow && (cell.character = '?' || cell.character = ':') && !cellsAtSpacingOrEnd rest)

private def pushScalar (scan : Scan) (plain : Bool) (text : List Char) : Scan :=
  scan.push (.scalar plain (String.ofList text))

/-- A node without tokens inside: saves the candidate, then no key can start. -/
private def leaf (scan : Scan) (cell : Cell) : Option Scan := do
  let scan ← scan.saveCandidate cell
  return scan.setAllowsKey false

/-- A block scalar: no candidate before it, and a key can start after it. -/
private def blockScalar (scan : Scan) (folds : Bool) (rest : List Cell) :
    Option (Scan × List Cell) := do
  let scan ← scan.dropCandidate
  let (text, rest) ← Block.read? folds scan.column rest
  return (pushScalar (scan.setAllowsKey true) false text, rest)

def token (scan : Scan) (cell : Cell) (rest : List Cell) : Option (Scan × List Cell) :=
  let cells := cell :: rest
  if cell.column = 0 && cell.character = '%' then do
    let scan ← scan.closeAll
    let isInLine (cell : Cell) : Bool := !isBreak cell.character
    let directive ← Property.directive? (characters (rest.takeWhile isInLine))
    return (scan.push directive, (rest.dropWhile isInLine).drop 1)
  else if isMarker '-' cells then do
    let scan ← scan.closeAll
    return (scan.push .documentStart, cells.drop 3)
  else if isMarker '.' cells then do
    let scan ← scan.closeAll
    return (scan.push .documentEnd, cells.drop 3)
  else
    let startsEntry := cellsAtSpacingOrEnd rest
    match cell.character with
    | '[' => do return (← scan.openFlow cell .flowSequenceStart, rest)
    | '\x7b' => do return (← scan.openFlow cell .flowMappingStart, rest)
    | ']' => do return (← scan.closeFlow .flowSequenceEnd, rest)
    | '\x7d' => do return (← scan.closeFlow .flowMappingEnd, rest)
    | ',' => do
        let scan ← (scan.push .flowEntry).dropCandidate
        return (scan.setAllowsKey true, rest)
    | '*' => do
        let scan ← leaf scan cell
        let (name, rest) ← Property.name? rest
        return (scan.push (.alias name), rest)
    | '&' => do
        let scan ← leaf scan cell
        let (name, rest) ← Property.name? rest
        return (scan.push (.anchor name), rest)
    | '!' => do
        let scan ← leaf scan cell
        let (tag, rest) ← Property.tag? scan.inFlow cells
        return (scan.push tag, rest)
    | '\'' => do
        let scan ← leaf scan cell
        let (text, rest) ← Quoted.single Gap.none rest
        return (pushScalar scan false text, rest)
    | '"' => do
        let scan ← leaf scan cell
        let (text, rest) ← Quoted.double (.text Gap.none) rest
        return (pushScalar scan false text, rest)
    | character =>
        if character = '-' && startsEntry then do
          let scan ← scan.blockMark cell .blockSequenceStart .blockEntry
          return (scan.setAllowsKey true, rest)
        else if character = '?' && (scan.inFlow || startsEntry) then do
          let scan ← scan.blockMark cell .blockMappingStart .key
          return (scan.setAllowsKey (!scan.inFlow), rest)
        else if character = ':' && (scan.inFlow || startsEntry) then do
          return (← scan.colon cell, rest)
        else if character = '|' && !scan.inFlow then blockScalar scan false rest
        else if character = '>' && !scan.inFlow then blockScalar scan true rest
        else if startsPlain scan.inFlow cell rest then do
          let scan ← leaf scan cell
          let reading ← Plain.read scan.inFlow (scan.column + 1) Gap.none cells
          return (pushScalar (scan.setAllowsKey reading.endsLine) true reading.text,
            reading.rest)
        else none

/-- The reading at the end of the cells. Each step but the last takes a cell away. -/
def run : (steps : Nat) → Scan → List Cell → Option Scan
  | 0, _, _ => none
  | steps + 1, scan, cells =>
      let (allowsKey, cells) := toToken scan.inFlow scan.allowsKey false cells
      let scan := scan.setAllowsKey allowsKey
      match cells with
      | [] => if scan.inFlow then none else scan.closeAll
      | cell :: rest => do
          let (scan, rest) ← (scan.closeBlocks cell.column).token cell rest
          run steps scan rest

end Scan

def Token.ofText? (text : String) : Option (List Token) := do
  let cells ← Cell.ofText? text
  let scan ← Scan.run (cells.length + 1) Scan.start cells
  return scan.reversed.reverse

end TraefikUpgrade.Yaml
