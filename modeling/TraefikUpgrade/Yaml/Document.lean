import TraefikUpgrade.Yaml.Alias
import TraefikUpgrade.Yaml.Token.Reading

/-!
Contract: the reading of a document.

Owns: the content and the value of a text. A text with nothing in it has no
content, and its value is null. A text that holds more than one document, or
anything that no document can hold, cannot be read at all.

Does not own: the steps of the reading, from cells over tokens and nodes to
content and values.
-/

set_option autoImplicit false

namespace TraefikUpgrade.Yaml

/-- The content of a text, `none` inside when there is nothing in it. -/
def content? (text : String) : Option (Option Content) := do
  match ← Node.ofTokens? (← Token.ofText? text) with
  | none => some none
  | some node => return some (← node.content?)

def parse (text : String) : Option Value := do
  match ← content? text with
  | none => some .null
  | some content => content.value?

end TraefikUpgrade.Yaml
