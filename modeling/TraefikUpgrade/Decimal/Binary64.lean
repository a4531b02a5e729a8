/-!
Contract: the numbers of the format binary64, and their decimal text.

Owns: the numbers themselves, the rounding of a decimal number to the nearest
of them, the shortest decimal digits that identify one, and the text that is
written for one. Everything is exact arithmetic on natural numbers.

Does not own: which spellings are read as numbers (`TraefikUpgrade.Yaml.Scalar`).
-/

set_option autoImplicit false

namespace TraefikUpgrade.Decimal

/-- A number of the format binary64. The finite ones are a significand below 2^53 times a power
of two, where the exponent is at least -1074 and is that when the significand is below 2^52. -/
inductive Binary64 where
  | finite (negative : Bool) (significand : Nat) (exponent : Int)
  | infinite (negative : Bool)
  | nan
deriving DecidableEq, Repr

namespace Binary64

/-- The least exponent, and the distance between the smallest numbers as a power of two. -/
def leastExponent : Int := -1074

def greatestExponent : Int := 971

/-- The least significand of a number with the full precision of 53 bits. -/
def leastFullSignificand : Nat := Nat.pow 2 52

def zero (negative : Bool) : Binary64 :=
  .finite negative 0 leastExponent

def isFinite : Binary64 → Bool
  | .finite .. => true
  | _ => false

/-- Whether two numbers are the same key: both zeros are, and so is what is no number. -/
def sameKey : Binary64 → Binary64 → Bool
  | .finite _ 0 _, .finite _ 0 _ => true
  | first, second => first = second

/-- The quotient rounded to the nearest natural number, a half to the even neighbour. -/
def roundedQuotient (numerator denominator : Nat) : Nat :=
  let quotient := numerator / denominator
  let twiceRest := 2 * (numerator % denominator)
  if twiceRest < denominator || (twiceRest = denominator && quotient % 2 = 0) then quotient
  else quotient + 1

/-- The number with the given significand, which may be 2^53, and exponent. -/
def ofParts (negative : Bool) (significand : Nat) (exponent : Int) : Binary64 :=
  let (significand, exponent) :=
    if significand = 2 * leastFullSignificand then (leastFullSignificand, exponent + 1)
    else (significand, exponent)
  if greatestExponent < exponent then .infinite negative
  else .finite negative significand exponent

def dividedByPower (numerator denominator : Nat) (exponent : Int) : Nat × Nat :=
  if exponent < 0 then (numerator * Nat.pow 2 (-exponent).toNat, denominator)
  else (numerator, denominator * Nat.pow 2 exponent.toNat)

/-- The exponent at which a positive fraction has its 53 bits, or the least exponent if that is
greater. -/
def roundingExponent (numerator denominator : Nat) : Int :=
  let guess : Int := (Nat.log2 numerator : Int) - Nat.log2 denominator - 53
  let (scaled, unit) := dividedByPower numerator denominator guess
  max leastExponent (if 2 * leastFullSignificand * unit ≤ scaled then guess + 1 else guess)

/-- The number nearest to a positive fraction, a half going to the even significand. -/
def nearest (negative : Bool) (numerator denominator : Nat) : Binary64 :=
  let exponent := roundingExponent numerator denominator
  let (scaled, unit) := dividedByPower numerator denominator exponent
  ofParts negative (roundedQuotient scaled unit) exponent

/-- The number nearest to `digits` times a power of ten. Magnitudes that are far out of range are
told by their number of digits, so the powers computed stay small. -/
def ofDecimal (negative : Bool) (digits : Nat) (exponent : Int) : Binary64 :=
  let magnitude : Int := (Nat.toDigits 10 digits).length + exponent
  if digits = 0 || magnitude < -330 then zero negative
  else if 310 < magnitude then .infinite negative
  else if exponent < 0 then nearest negative digits (Nat.pow 10 (-exponent).toNat)
  else nearest negative (digits * Nat.pow 10 exponent.toNat) 1

/-- The reals that round to a number, in quarters of its unit: the number, the lower and the upper
bound. Below a power of two the numbers are twice as dense. -/
def roundingInterval (significand : Nat) (exponent : Int) : Nat × Nat × Nat :=
  let value := 4 * significand
  let below := if significand = leastFullSignificand && leastExponent < exponent then 1 else 2
  (value, value - below, value + 2)

/-- Decimal digits without trailing zeros, and the position of the point counted from their start:
the value is 0.digits times ten to the power of the position. -/
structure DecimalDigits where
  digits : List Char
  position : Int
deriving DecidableEq, Repr

private def withoutTrailingZeros (digits : List Char) : List Char :=
  (digits.reverse.dropWhile (· = '0')).reverse

/-- The digits of `count` units of ten to the power `exponent`. -/
def digitsOf (count : Nat) (exponent : Int) : DecimalDigits :=
  let digits := Nat.toDigits 10 count
  ⟨withoutTrailingZeros digits, digits.length + exponent⟩

/-- The least power of ten above the fraction, at most `steps` above the first candidate. -/
private def pointPosition (numerator denominator : Nat) : (steps : Nat) → Int → Int
  | 0, position => position
  | steps + 1, position =>
      let below :=
        if position < 0 then numerator * Nat.pow 10 (-position).toNat < denominator
        else numerator < denominator * Nat.pow 10 position.toNat
      if below then position else pointPosition numerator denominator steps (position + 1)

/-- Of the two neighbours of a number on the grid of a power of ten, the one that rounds to the
number and is nearest to it; a tie goes to the even one. All sizes are over one denominator. -/
def gridPoint? (value low high denominator : Nat) (closed : Bool) (grid : Int) :
    Option DecimalDigits :=
  let (scale, unit) :=
    if grid < 0 then (Nat.pow 10 (-grid).toNat, denominator)
    else (1, denominator * Nat.pow 10 grid.toNat)
  let value := value * scale
  let inside (count : Nat) : Bool :=
    let point := count * unit
    if closed then low * scale ≤ point && point ≤ high * scale
    else low * scale < point && point < high * scale
  let floor := value / unit
  let distanceBelow := value - floor * unit
  let distanceAbove := (floor + 1) * unit - value
  match decide (0 < floor) && inside floor, inside (floor + 1) with
  | true, true =>
      if distanceBelow < distanceAbove || (distanceBelow = distanceAbove && floor % 2 = 0) then
        some (digitsOf floor grid)
      else some (digitsOf (floor + 1) grid)
  | true, false => some (digitsOf floor grid)
  | false, true => some (digitsOf (floor + 1) grid)
  | false, false => none

/-- The shortest decimal digits that round to a positive number, and of these the nearest. -/
def shortestDigits (significand : Nat) (exponent : Int) : DecimalDigits :=
  let (value, low, high) := roundingInterval significand exponent
  let unitExponent := exponent - 2
  let (factor, denominator) :=
    if unitExponent < 0 then (1, Nat.pow 2 (-unitExponent).toNat)
    else (Nat.pow 2 unitExponent.toNat, 1)
  let (value, low, high) := (value * factor, low * factor, high * factor)
  let guess : Int := ((Nat.log2 value : Int) - Nat.log2 denominator - 1) * 30103 / 100000 - 1
  let position := pointPosition value denominator 6 guess
  let closed := significand % 2 = 0
  ((List.range 17).findSome? fun (further : Nat) =>
    gridPoint? value low high denominator closed (position - (further + 1 : Nat))).getD
      ⟨['0'], 1⟩

/-- Positional notation up to sixteen digits before the point and down to four zeros after it,
else the notation with an exponent. -/
def DecimalDigits.text (number : DecimalDigits) : List Char :=
  let length : Int := number.digits.length
  let position := number.position
  if length ≤ position ∧ position ≤ 16 then
    number.digits ++ List.replicate (position - length).toNat '0' ++ ['.', '0']
  else if 0 < position ∧ position ≤ 16 then
    number.digits.take position.toNat ++ '.' :: number.digits.drop position.toNat
  else if -5 < position ∧ position ≤ 0 then
    ['0', '.'] ++ List.replicate (-position).toNat '0' ++ number.digits
  else
    let fraction :=
      match number.digits.drop 1 with
      | [] => []
      | following => '.' :: following
    number.digits.take 1 ++ fraction ++ 'e' :: (toString (position - 1)).toList

private def signed (negative : Bool) (text : List Char) : List Char :=
  if negative then '-' :: text else text

def text : Binary64 → String
  | .nan => ".nan"
  | .infinite negative => String.ofList (signed negative ['.', 'i', 'n', 'f'])
  | .finite negative 0 _ => String.ofList (signed negative ['0', '.', '0'])
  | .finite negative significand exponent =>
      String.ofList (signed negative (shortestDigits significand exponent).text)

end Binary64

end TraefikUpgrade.Decimal
