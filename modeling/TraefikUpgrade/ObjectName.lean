import TraefikUpgrade.Text.Alphanumeric
import TraefikUpgrade.Text.Segment

/-!
Contract: object names made from free text.

Owns: the normal form of a text as part of an object name, which is its maximal
runs of letters and digits joined by hyphens.

Does not own: which texts become parts of names (`TraefikUpgrade.Conversion`).
-/

set_option autoImplicit false

namespace TraefikUpgrade.ObjectName

/-- The maximal runs of letters and digits of a text, in order. -/
def words (text : String) : List (List Char) :=
  Text.runs Text.isAlphanumeric text.toList

/-- The words of a text with one hyphen between each two of them. -/
def normalize (text : String) : String :=
  String.ofList (Text.joinWith ['-'] (words text))

end TraefikUpgrade.ObjectName
