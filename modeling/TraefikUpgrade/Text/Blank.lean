/-!
Contract: blank characters and the trimming of text.

Owns: the class of blank characters, which are those with the Unicode property
White_Space, and the three trims built on it, over lists of characters.

Does not own: any narrower class of spacing, such as the spaces and tabs of a
YAML line or of a request modifier; each of these stands with its grammar.
-/

set_option autoImplicit false

namespace TraefikUpgrade.Text

/-- A character that separates words and shows nothing. -/
def isBlank (character : Char) : Bool :=
  let code := character.toNat
  (0x09 ≤ code && code ≤ 0x0D) || code == 0x20 || code == 0x85 || code == 0xA0 ||
    code == 0x1680 || (0x2000 ≤ code && code ≤ 0x200A) || code == 0x2028 ||
    code == 0x2029 || code == 0x202F || code == 0x205F || code == 0x3000

/-- Drops the longest trailing run of the characters in `drop`. -/
def dropTrailing (drop : Char → Bool) (characters : List Char) : List Char :=
  (characters.reverse.dropWhile drop).reverse

def trimStart (characters : List Char) : List Char :=
  characters.dropWhile isBlank

def trimEnd (characters : List Char) : List Char :=
  dropTrailing isBlank characters

def trim (characters : List Char) : List Char :=
  trimEnd (trimStart characters)

/-- Text in which nothing can be seen. -/
def allBlank (characters : List Char) : Bool :=
  characters.all isBlank

end TraefikUpgrade.Text
