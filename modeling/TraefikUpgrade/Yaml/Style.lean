import TraefikUpgrade.Yaml.Character
import TraefikUpgrade.Yaml.Scalar

/-!
Contract: how the text of a scalar is presented.

Owns: the four styles, which of them a text is written in, and the written form
of a text in each. A string is written so that it reads as that string: quotes
where its text would otherwise be something else, a literal block where it has
line feeds, and escapes where neither quotes nor a block can hold it.

Does not own: where a scalar stands in a document (`TraefikUpgrade.Yaml.Writer`).
-/

set_option autoImplicit false

namespace TraefikUpgrade.Yaml

inductive Style where
  | plain
  | singleQuoted
  | doubleQuoted
  | literal
deriving DecidableEq, Repr

namespace Style

/-- Whether a character of the first class is followed at once by one of the second. -/
def hasPair (first second : Char → Bool) : List Char → Bool
  | character :: next :: rest =>
      (first character && second next) || hasPair first second (next :: rest)
  | _ => false

/-- Whether some tail of the text, the text itself included, satisfies the condition. -/
def hasTail (condition : List Char → Bool) : List Char → Bool
  | [] => false
  | character :: rest => condition (character :: rest) || hasTail condition rest

private def isSpace (character : Char) : Bool :=
  character = ' '

/-- Whether only escapes can hold the text. -/
def needsEscapes (text : List Char) : Bool :=
  text.any (fun character => !isWritable character) || hasPair isSpace isBreak text

/-- Whether the text has a mark where the format reads the mark as syntax. -/
def hasIndicator (text : List Char) : Bool :=
  text.take 3 = ['-', '-', '-'] || text.take 3 = ['.', '.', '.'] ||
    (match text with
      | [] => false
      | character :: rest =>
          "#,[]\x7b\x7d&*!|>'\"%@\x60".toList.contains character ||
            ((character = '-' || character = '?') && atSpacingOrEnd rest)) ||
    hasTail (fun tail => tail.head? = some ':' && atSpacingOrEnd (tail.drop 1)) text ||
    hasPair isSpacingOrBreak (· = '#') text

private def isSpaceOrBreak (character : Char) : Bool :=
  isSpace character || isBreak character

def allowsPlain (text : List Char) : Bool :=
  !text.isEmpty && !needsEscapes text && !hasIndicator text && !text.any isBreak &&
    !text.head?.any isSpaceOrBreak && !text.getLast?.any isSpaceOrBreak

/-- Whether a text can stand between single quotes, where a line keeps no leading spaces. -/
def allowsSingleQuotes (text : List Char) : Bool :=
  !needsEscapes text && !hasPair isBreak isSpace text

/-- Whether a text can stand in a literal block. -/
def allowsLiteral (text : List Char) : Bool :=
  !needsEscapes text && !text.getLast?.any isSpace

/-- Whether a text without quotes reads as the string that it is. -/
def readsAsItself (text : String) : Bool :=
  Scalar.plainValue? text = some (.string text) && !Scalar.isZeroLedDigits text.toList

def ofText (text : String) : Style :=
  let characters := text.toList
  if characters.contains '\n' then
    if allowsLiteral characters then .literal else .doubleQuoted
  else if readsAsItself text && allowsPlain characters then .plain
  else if allowsSingleQuotes characters then .singleQuoted
  else .doubleQuoted

/-- A text with indentation after each run of breaks, also at its end. -/
private def indentContinuations (indentation : List Char) (afterBreak : Bool) :
    List Char → List Char
  | [] => if afterBreak then indentation else []
  | character :: rest =>
      if isBreak character then character :: indentContinuations indentation true rest
      else
        (if afterBreak then indentation else []) ++
          (if character = '\'' then ['\'', '\''] else [character]) ++
          indentContinuations indentation false rest

private def upperHexadecimal (digits : Nat) (code : Nat) : List Char :=
  let text := (Nat.toDigits 16 code).map Char.toUpper
  List.replicate (digits - text.length) '0' ++ text

def escape (character : Char) : List Char :=
  if character = '"' then ['\\', '"']
  else if character = '\\' then ['\\', '\\']
  else if isWritable character && !isBreak character then [character]
  else
    '\\' ::
      match character.toNat with
      | 0x00 => ['0']
      | 0x07 => ['a']
      | 0x08 => ['b']
      | 0x09 => ['t']
      | 0x0A => ['n']
      | 0x0B => ['v']
      | 0x0C => ['f']
      | 0x0D => ['r']
      | 0x1B => ['e']
      | 0x85 => ['N']
      | 0x2028 => ['L']
      | 0x2029 => ['P']
      | code =>
          if code ≤ 0xFF then 'x' :: upperHexadecimal 2 code
          else if code ≤ 0xFFFF then 'u' :: upperHexadecimal 4 code
          else 'U' :: upperHexadecimal 8 code

/-- The marks after the bar of a literal block: an indentation digit where the text does not show
the indentation itself, and what becomes of its last line breaks. -/
def literalHeader (text : List Char) : List Char :=
  let indentation := if text.head?.any isSpaceOrBreak then ['2'] else []
  let chomping :=
    match text.reverse with
    | last :: before =>
        if !isBreak last then ['-']
        else if before.isEmpty || before.head?.any isBreak then ['+']
        else []
    | [] => ['-']
  '|' :: indentation ++ chomping

/-- The lines of a literal block. Empty lines get no indentation. -/
private def literalLines (indentation : List Char) (afterBreak : Bool) : List Char → List Char
  | [] => []
  | character :: rest =>
      if isBreak character then character :: literalLines indentation true rest
      else
        (if afterBreak then indentation else []) ++
          character :: literalLines indentation false rest

/-- A text in a style, up to and with the break that ends its last line when the style brings one.
Lines after the first are indented. -/
def render (indent : Nat) (style : Style) (text : List Char) : List Char :=
  let indentation := List.replicate indent ' '
  match style with
  | .plain => text
  | .singleQuoted => '\'' :: indentContinuations indentation false text ++ ['\'']
  | .doubleQuoted => '"' :: text.flatMap escape ++ ['"']
  | .literal => literalHeader text ++ '\n' :: literalLines indentation true text

end Style

end TraefikUpgrade.Yaml
