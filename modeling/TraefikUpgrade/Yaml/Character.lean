/-!
Contract: the character classes of the document format.

Owns: line breaks, the spacing inside a line, the characters that a document
may hold at all, those that are written as they are, and the small classes of
the syntax: indicators, and the characters of names, tags and escapes.

Does not own: blanks in the wider sense, which play no part in the format.
-/

set_option autoImplicit false

namespace TraefikUpgrade.Yaml

/-- Line feed, carriage return, next line, line separator and paragraph separator. -/
def isBreak (character : Char) : Bool :=
  character = '\n' || character = '\r' || character = '\u0085' || character = '\u2028' ||
    character = '\u2029'

/-- Space and tab. -/
def isSpacing (character : Char) : Bool :=
  character = ' ' || character = '\t'

def isSpacingOrBreak (character : Char) : Bool :=
  isSpacing character || isBreak character

/-- Whether the text is at an end, at spacing or at a break. -/
def atSpacingOrEnd : List Char → Bool
  | [] => true
  | character :: _ => isSpacingOrBreak character

/-- The characters that a document may hold. -/
def isReadable (character : Char) : Bool :=
  let code := character.toNat
  code = 0x09 || code = 0x0A || code = 0x0D || (0x20 ≤ code && code ≤ 0x7E) || code = 0x85 ||
    (0xA0 ≤ code && code ≤ 0xD7FF) || (0xE000 ≤ code && code ≤ 0xFFFD) || 0x10000 ≤ code

def byteOrderMark : Char := '\uFEFF'

def isWritable (character : Char) : Bool :=
  let code := character.toNat
  code = 0x0A || (0x20 ≤ code && code ≤ 0x7E) ||
    (0xA0 ≤ code && code ≠ 0xFEFF && code ≠ 0xFFFE && code ≠ 0xFFFF)

/-- The brackets and the comma of flow collections. -/
def isFlowIndicator (character : Char) : Bool :=
  [',', '[', ']', '\x7b', '\x7d'].contains character

def isNameCharacter (character : Char) : Bool :=
  character.isAlphanum || character = '_' || character = '-'

end TraefikUpgrade.Yaml
