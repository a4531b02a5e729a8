import TraefikUpgrade.Text.Printable

/-!
Contract: the quoted form of text in messages.

Owns: the rule that a text in a message stands between double quotes, that a
quote or backslash in it gets a backslash, that the common controls have short
names, and that any other character that cannot be shown is named by its code
point in hexadecimal.

Does not own: the class of characters that can be shown
(`TraefikUpgrade.Text.Printable`).
-/

set_option autoImplicit false

namespace TraefikUpgrade.Text

/-- Lower-case hexadecimal digits without leading zeros. -/
def hexadecimal (code : Nat) : List Char :=
  Nat.toDigits 16 code

/-- One character as it stands inside quotes. -/
def quoteCharacter (character : Char) : List Char :=
  if character = '\x00' then ['\\', '0']
  else if character = '\t' then ['\\', 't']
  else if character = '\n' then ['\\', 'n']
  else if character = '\r' then ['\\', 'r']
  else if character = '"' then ['\\', '"']
  else if character = '\\' then ['\\', '\\']
  else if isPrintable character then [character]
  else ['\\', 'u', '\x7b'] ++ hexadecimal character.toNat ++ ['\x7d']

/-- The text between double quotes, with every character of it shown or named. -/
def quoted (text : String) : String :=
  String.ofList (['"'] ++ text.toList.flatMap quoteCharacter ++ ['"'])

end TraefikUpgrade.Text
