import TraefikUpgrade.Yaml.Document
import TraefikUpgrade.Yaml.Writer

/-!
Contract: the reading of a document character by character.

Owns: the value of a document as a function of its characters, and that the
reading of a text gives the value of the characters of the text. A text that
is known is read in this form, where no text is made of the characters and
taken apart again.

Does not own: which values documents have (`TraefikUpgrade.Yaml.Document`).
-/

set_option autoImplicit false

namespace TraefikUpgrade.Yaml

/-- The value of the document that has the given characters. -/
def valueOf? (characters : List Char) : Option Value :=
  if characters.all isReadable then do
    let cells := Cell.placed 0 0 0 characters
    let scan ← Scan.run (cells.length + 1) Scan.start cells
    match ← Node.ofTokens? scan.reversed.reverse with
    | none => some .null
    | some node => (← node.content?).value?
  else none

theorem parse_ofList (characters : List Char) :
    parse (String.ofList characters) = valueOf? characters := by
  unfold parse content? Token.ofText? Cell.ofText? valueOf?
  rw [String.toList_ofList]
  by_cases readable : characters.all isReadable = true
  · rw [if_pos readable, if_pos readable]
    cases scanned : Scan.run ((Cell.placed 0 0 0 characters).length + 1) Scan.start
        (Cell.placed 0 0 0 characters) with
    | none => simp [scanned]
    | some scan =>
        cases read : Node.ofTokens? scan.reversed.reverse with
        | none => simp [scanned, read]
        | some found =>
            cases found with
            | none => simp [scanned, read]
            | some node => cases expanded : node.content? <;> simp [scanned, read, expanded]
  · rw [if_neg readable, if_neg readable]
    rfl

end TraefikUpgrade.Yaml
