import TraefikUpgrade.Log
import TraefikUpgrade.Text.Blank
import TraefikUpgrade.Text.Map
import TraefikUpgrade.Text.Quoted
import TraefikUpgrade.Text.Segment

/-!
Contract: header maps written in an annotation, `Name:value||Name:value`.

Owns: the canonical form of header names, the well-formed entries of a text,
the map that a text stands for, and the warnings about what does not belong to
it. Of two entries with one canonical name the later one counts.

Does not own: which annotations hold header maps (`TraefikUpgrade.Directive`).
-/

set_option autoImplicit false

namespace TraefikUpgrade.Annotation

/-- The characters of a header name. -/
def isTokenCharacter (character : Char) : Bool :=
  character.isAlphanum || "!#$%&'*+-.^_\x60|~".toList.contains character

/-- Capitalises each part of a name; `startsPart` tells whether a part starts here. -/
def capitalizeParts (startsPart : Bool) : List Char → List Char
  | [] => []
  | character :: rest =>
      let capitalized := if startsPart then character.toUpper else character.toLower
      capitalized :: capitalizeParts (capitalized = '-') rest

/-- Header names are equal in any case of letters; this is the spelling that stands for all of
them. A text with a character that no header name has stands for itself. -/
def canonicalHeaderName (name : List Char) : List Char :=
  if name.all isTokenCharacter then capitalizeParts true name else name

/-- The canonical name and the value of one entry; none without a colon or with a blank name. -/
def nameAndValue? (entry : List Char) : Option (String × String) := do
  let (name, value) ← Text.cutAtFirst ':' entry
  let name := Text.trim name
  if name.isEmpty then none
  else some (String.ofList (canonicalHeaderName name), String.ofList (Text.trim value))

def headerEntries (text : String) : List (List Char) :=
  Text.fieldsBetweenPairs '|' text.toList

/-- The map that the well-formed entries of a text make. -/
def headerMapOf (text : String) : TextMap :=
  TextMap.ofList ((headerEntries text).filterMap nameAndValue?)

private def malformedEntryWarning (key : String) (entry : List Char) : LogRecord :=
  ⟨.warn, s!"Could not load {Text.quoted key}: {Text.quoted (String.ofList entry)}, skipping..."⟩

/-- One warning for each malformed entry, and one more when nothing is left. -/
def headerMapWarnings (key text : String) : List LogRecord :=
  (((headerEntries text).filter fun entry => (nameAndValue? entry).isNone).map
      (malformedEntryWarning key)) ++
    if (headerMapOf text).isEmpty then
      [⟨.warn, s!"Could not load {Text.quoted key}, skipping..."⟩]
    else []

def headerMap (key text : String) : Logged (Option TextMap) :=
  ⟨if (headerMapOf text).isEmpty then none else some (headerMapOf text),
    headerMapWarnings key text⟩

end TraefikUpgrade.Annotation
