import TraefikUpgrade.Yaml.Token.Folding

/-!
Contract: scalars without quotes.

Owns: where such a scalar ends, and its text with the lines folded. It ends
before a colon or after a gap before a comment, before the brackets and commas
of a flow collection, before a line that is not indented enough, and before a
line that starts or ends a document.

Does not own: where such a scalar may start (`TraefikUpgrade.Yaml.Token.Reading`),
and what its text stands for (`TraefikUpgrade.Yaml.Scalar`).
-/

set_option autoImplicit false

namespace TraefikUpgrade.Yaml.Plain

/-- A scalar without quotes, and where the reading goes on. -/
structure Reading where
  text : List Char
  /-- Whether a break stands between the scalar and what follows. -/
  endsLine : Bool
  rest : List Cell

/-- Whether a colon in a flow collection stands directly before an indicator. -/
def isMisplacedColon (rest : List Cell) : Bool :=
  match rest with
  | [] => false
  | next :: _ => isFlowIndicator next.character || next.character = '?'

/-- Whether the scalar ends before a cell that is neither spacing nor a break. `least` is the
least column of its further lines. -/
def endsBefore (inFlow : Bool) (least : Int) (gap : Gap) (cell : Cell) (rest : List Cell) :
    Bool :=
  (gap.hasBreak && !inFlow && (cell.column : Int) < least) ||
    isDocumentMarker (cell :: rest) ||
    (cell.character = '#' && !gap.reversed.isEmpty)

/-- Whether a cell in a line of the scalar ends it. -/
def isEndIndicator (inFlow : Bool) (cell : Cell) (rest : List Cell) : Bool :=
  (cell.character = ':' && cellsAtSpacingOrEnd rest) ||
    (inFlow && isFlowIndicator cell.character)

/-- The rest of the scalar after a gap. There is none where a tab stands for indentation. -/
def read (inFlow : Bool) (least : Int) (gap : Gap) : List Cell → Option Reading
  | [] => some ⟨[], gap.hasBreak, []⟩
  | cell :: rest =>
      if isSpacingOrBreak cell.character then
        if cell.character = '\t' && gap.hasBreak && (cell.column : Int) < least then none
        else read inFlow least (gap.push cell.character) rest
      else if endsBefore inFlow least gap cell rest then
        some ⟨[], gap.hasBreak, cell :: rest⟩
      else if inFlow && cell.character = ':' && isMisplacedColon rest then none
      else if isEndIndicator inFlow cell rest then some ⟨[], gap.hasBreak, cell :: rest⟩
      else do
        let reading ← read inFlow least Gap.none rest
        return { reading with text := gap.folded ++ cell.character :: reading.text }

end TraefikUpgrade.Yaml.Plain
