/-!
Contract: integers written with digits.

Owns: digits in a radix, natural numbers written with them, decimal integers
with an optional sign, and the ranges of machine integers that documents and
annotations are held to.

Does not own: which spellings of numbers a format has beyond these
(`TraefikUpgrade.Yaml.Scalar`).
-/

set_option autoImplicit false

namespace TraefikUpgrade.Decimal

/-- The value of a digit in a radix up to 36. -/
def digit? (radix : Nat) (character : Char) : Option Nat :=
  let value :=
    if character.isDigit then character.toNat - '0'.toNat
    else if character.isUpper then character.toNat - 'A'.toNat + 10
    else if character.isLower then character.toNat - 'a'.toNat + 10
    else radix
  if value < radix then some value else none

/-- The value of digits that follow digits worth `accumulated`. -/
def digitsAfter? (radix accumulated : Nat) : List Char → Option Nat
  | [] => some accumulated
  | character :: rest => do
      let value ← digit? radix character
      digitsAfter? radix (accumulated * radix + value) rest

/-- One digit or more. -/
def natural? (radix : Nat) : List Char → Option Nat
  | [] => none
  | characters => digitsAfter? radix 0 characters

/-- A decimal integer with an optional sign. -/
def integer? : List Char → Option Int
  | '+' :: digits => (natural? 10 digits).map Int.ofNat
  | '-' :: digits => (natural? 10 digits).map fun magnitude => -(magnitude : Int)
  | digits => (natural? 10 digits).map Int.ofNat

def isInt64 (value : Int) : Bool :=
  -Int.pow 2 63 ≤ value && value < Int.pow 2 63

def isUInt64 (value : Int) : Bool :=
  0 ≤ value && value < Int.pow 2 64

def isInt32 (value : Int) : Bool :=
  -Int.pow 2 31 ≤ value && value < Int.pow 2 31

end TraefikUpgrade.Decimal
