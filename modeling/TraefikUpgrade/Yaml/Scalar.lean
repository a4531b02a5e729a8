import TraefikUpgrade.Decimal.Integer
import TraefikUpgrade.Yaml.Value

/-!
Contract: what the text of a scalar stands for.

Owns: the spellings of null, of the truth values, of integers and of floating
numbers, the value of a text without quotes, and the value of a text under one
of the core tags. A text that spells none of these stands for itself.

Does not own: where a scalar starts and ends in a document
(`TraefikUpgrade.Yaml.Token`), and how strings are quoted so that they do not
spell anything else (`TraefikUpgrade.Yaml.Style`).
-/

set_option autoImplicit false

namespace TraefikUpgrade.Yaml.Scalar

def isNull (text : String) : Bool :=
  ["~", "null", "Null", "NULL"].contains text

def bool? (text : String) : Option Bool :=
  if ["true", "True", "TRUE"].contains text then some true
  else if ["false", "False", "FALSE"].contains text then some false
  else none

/-- A digit string with a leading zero, which is no number whatever its sign. -/
def isZeroLedDigits (text : List Char) : Bool :=
  let digits :=
    match text with
    | '-' :: rest => rest
    | '+' :: rest => rest
    | _ => text
  1 < digits.length && digits.head? = some '0' && digits.all Char.isDigit

/-- A natural number in one of the four radices. -/
def magnitude? : List Char → Option Nat
  | '0' :: 'x' :: digits => Decimal.natural? 16 digits
  | '0' :: 'o' :: digits => Decimal.natural? 8 digits
  | '0' :: 'b' :: digits => Decimal.natural? 2 digits
  | digits => Decimal.natural? 10 digits

/-- An integer of any size. -/
def integer? (text : List Char) : Option Int :=
  if isZeroLedDigits text then none
  else
    match text with
    | '+' :: rest => (magnitude? rest).map Int.ofNat
    | '-' :: rest => (magnitude? rest).map fun magnitude => -(magnitude : Int)
    | _ => (magnitude? text).map Int.ofNat

def isValueInteger (value : Int) : Bool :=
  Decimal.isInt64 value || Decimal.isUInt64 value

/-- The integers that are recognised as such: 128 bits, signed or unsigned. Digits beyond these are
read as a floating number. -/
def isRecognisedInteger (value : Int) : Bool :=
  -Int.pow 2 127 ≤ value && value < Int.pow 2 128

/-- The exponent at the end of a decimal number, zero when nothing stands there. -/
def exponent? : List Char → Option Int
  | [] => some 0
  | mark :: rest => if mark = 'e' || mark = 'E' then Decimal.integer? rest else none

/-- A decimal number with a point, an exponent or neither. -/
def decimal? (negative : Bool) (text : List Char) : Option Decimal.Binary64 := do
  let whole := text.takeWhile Char.isDigit
  let rest := text.dropWhile Char.isDigit
  let (fraction, rest) :=
    match rest with
    | '.' :: following => (following.takeWhile Char.isDigit, following.dropWhile Char.isDigit)
    | _ => ([], rest)
  let digits ← Decimal.natural? 10 (whole ++ fraction)
  let exponent ← exponent? rest
  return Decimal.Binary64.ofDecimal negative digits (exponent - fraction.length)

/-- A floating number. A decimal number beyond the finite ones is none. -/
def float? (text : List Char) : Option Decimal.Binary64 :=
  if [".nan", ".NaN", ".NAN"].contains (String.ofList text) then some .nan
  else
    let (negative, unsigned) :=
      match text with
      | '-' :: rest => (true, rest)
      | '+' :: rest => (false, rest)
      | _ => (false, text)
    if [".inf", ".Inf", ".INF"].contains (String.ofList unsigned) then
      some (.infinite negative)
    else (decimal? negative unsigned).filter Decimal.Binary64.isFinite

/-- The value of a text without quotes. There is none for an integer that is recognised but held
by no value. -/
def plainValue? (text : String) : Option Value :=
  if text.isEmpty || isNull text then some .null
  else
    match bool? text with
    | some value => some (.bool value)
    | none =>
        match (integer? text.toList).filter isRecognisedInteger with
        | some value => if isValueInteger value then some (.integer value) else none
        | none =>
            if isZeroLedDigits text.toList then some (.string text)
            else
              match float? text.toList with
              | some value => some (.float value)
              | none => some (.string text)

inductive CoreTag where
  | null
  | bool
  | integer
  | float
deriving DecidableEq, Repr

/-- The value that a text must spell under a core tag, quoted or not. -/
def CoreTag.value? (tag : CoreTag) (text : String) : Option Value :=
  match tag with
  | .null => if isNull text then some .null else none
  | .bool => (bool? text).map .bool
  | .integer =>
      ((integer? text.toList).filter isValueInteger).map .integer
  | .float => (float? text.toList).map .float

end TraefikUpgrade.Yaml.Scalar
