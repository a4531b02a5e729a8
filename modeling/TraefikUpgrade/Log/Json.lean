import TraefikUpgrade.Log

/-!
Contract: log records as lines of a log file.

Owns: the JSON object that a record is in a log file, one on each line, and the
escapes of a JSON text.

Does not own: where the lines go (`TraefikUpgrade.Files.Host`).
-/

set_option autoImplicit false

namespace TraefikUpgrade

namespace Json

def fourDigits (number : Nat) : List Char :=
  [number / 4096 % 16, number / 256 % 16, number / 16 % 16, number % 16].map Nat.digitChar

def escaped (character : Char) : List Char :=
  if character = '"' || character = '\\' then ['\\', character]
  else if character = '\n' then ['\\', 'n']
  else if character = '\r' then ['\\', 'r']
  else if character = '\t' then ['\\', 't']
  else if character = '\x08' then ['\\', 'b']
  else if character = '\x0c' then ['\\', 'f']
  else if character.toNat < 32 then '\\' :: 'u' :: fourDigits character.toNat
  else [character]

def quoted (text : String) : List Char :=
  '"' :: (text.toList.flatMap escaped ++ ['"'])

end Json

def LogRecord.fileLine (record : LogRecord) : String :=
  String.ofList
    ('\x7b' :: Json.quoted "level" ++ ':' :: Json.quoted record.level.name ++
      ',' :: Json.quoted "message" ++ ':' :: Json.quoted record.message ++ ['\x7d', '\n'])

end TraefikUpgrade
