import TraefikUpgrade.Decimal.Integer
import TraefikUpgrade.Yaml.Token.Folding

/-!
Contract: quoted scalars.

Owns: the texts between single quotes, where a doubled quote is a quote, and
between double quotes, with their escapes. Lines are folded in both. There is
no text where the quotes are not closed, where a line starts or ends a
document, or where an escape is unknown.

Does not own: scalars without quotes (`TraefikUpgrade.Yaml.Token.Plain`).
-/

set_option autoImplicit false

namespace TraefikUpgrade.Yaml.Quoted

/-- The rest of a text between single quotes, and the cells after it. -/
def single (gap : Gap) : List Cell → Option (List Char × List Cell)
  | [] => none
  | cell :: rest =>
      if isSpacingOrBreak cell.character then single (gap.push cell.character) rest
      else if isDocumentMarker (cell :: rest) then none
      else if cell.character = '\'' then
        match rest with
        | [] => some (gap.folded, [])
        | next :: following =>
            if next.character = '\'' then do
              let (text, after) ← single Gap.none following
              return (gap.folded ++ '\'' :: text, after)
            else some (gap.folded, rest)
      else do
        let (text, after) ← single Gap.none rest
        return (gap.folded ++ cell.character :: text, after)

def namedEscape? (name : Char) : Option Char :=
  match name with
  | '0' => some '\x00'
  | 'a' => some '\x07'
  | 'b' => some '\x08'
  | 't' => some '\t'
  | '\t' => some '\t'
  | 'n' => some '\n'
  | 'v' => some '\x0b'
  | 'f' => some '\x0c'
  | 'r' => some '\r'
  | 'e' => some '\x1b'
  | ' ' => some ' '
  | '"' => some '"'
  | '/' => some '/'
  | '\\' => some '\\'
  | 'N' => some '\u0085'
  | '_' => some '\u00A0'
  | 'L' => some '\u2028'
  | 'P' => some '\u2029'
  | _ => none

/-- How many hexadecimal digits follow the name of an escape by code point. -/
def escapeDigits? (name : Char) : Option Nat :=
  match name with
  | 'x' => some 2
  | 'u' => some 4
  | 'U' => some 8
  | _ => none

def characterOf? (code : Nat) : Option Char :=
  if code.isValidChar then some (Char.ofNat code) else none

/-- Where a reading between double quotes stands. -/
inductive Phase where
  | text (gap : Gap)
  /-- After a backslash. -/
  | escape
  /-- In an escape by code point: the digits still to come and the value of those read. -/
  | digits (remaining value : Nat)
deriving DecidableEq, Repr

/-- The rest of a text between double quotes, and the cells after it. -/
def double : Phase → List Cell → Option (List Char × List Cell)
  | _, [] => none
  | .text gap, cell :: rest =>
      if isSpacingOrBreak cell.character then double (.text (gap.push cell.character)) rest
      else if isDocumentMarker (cell :: rest) then none
      else if cell.character = '"' then some (gap.folded, rest)
      else if cell.character = '\\' then do
        let (text, after) ← double .escape rest
        return (gap.folded ++ text, after)
      else do
        let (text, after) ← double (.text Gap.none) rest
        return (gap.folded ++ cell.character :: text, after)
  | .escape, cell :: rest =>
      if isBreak cell.character then double (.text Gap.afterEscapedBreak) rest
      else
        match escapeDigits? cell.character with
        | some digits => double (.digits digits 0) rest
        | none => do
            let character ← namedEscape? cell.character
            let (text, after) ← double (.text Gap.none) rest
            return (character :: text, after)
  | .digits remaining value, cell :: rest => do
      let digit ← Decimal.digit? 16 cell.character
      let value := value * 16 + digit
      if remaining ≤ 1 then do
        let character ← characterOf? value
        let (text, after) ← double (.text Gap.none) rest
        return (character :: text, after)
      else double (.digits (remaining - 1) value) rest

end TraefikUpgrade.Yaml.Quoted
