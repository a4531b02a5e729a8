import TraefikUpgrade.Decimal.Integer
import TraefikUpgrade.Text.Blank

/-!
Contract: points in time to the second.

Owns: dates of the proleptic Gregorian calendar, the reading of a date with a
time and an offset, and the written form, which is in UTC and has no fraction.
The reading follows RFC 3339 but allows blanks around the parts, one digit
where two are usual, and a space in place of the letter between date and time.
A point in time whose date in UTC is beyond the last year or before the first
one is not read.

Does not own: which fields of a resource hold points in time
(`TraefikUpgrade.Kubernetes.ObjectMeta`).
-/

set_option autoImplicit false

namespace TraefikUpgrade

structure Date where
  year : Int
  month : Nat
  day : Nat
deriving DecidableEq, Repr

namespace Date

def isLeapYear (year : Int) : Bool :=
  year % 4 = 0 && (year % 100 ≠ 0 || year % 400 = 0)

def daysInMonth (year : Int) (month : Nat) : Nat :=
  match month with
  | 2 => if isLeapYear year then 29 else 28
  | 4 => 30
  | 6 => 30
  | 9 => 30
  | 11 => 30
  | _ => 31

def isYear (year : Int) : Bool :=
  -262143 ≤ year && year ≤ 262142

def isValid (date : Date) : Bool :=
  isYear date.year && 1 ≤ date.month && date.month ≤ 12 && 1 ≤ date.day &&
    date.day ≤ daysInMonth date.year date.month

def next (date : Date) : Date :=
  if date.day < daysInMonth date.year date.month then { date with day := date.day + 1 }
  else if date.month < 12 then ⟨date.year, date.month + 1, 1⟩
  else ⟨date.year + 1, 1, 1⟩

def previous (date : Date) : Date :=
  if 1 < date.day then { date with day := date.day - 1 }
  else if 1 < date.month then
    ⟨date.year, date.month - 1, daysInMonth date.year (date.month - 1)⟩
  else ⟨date.year - 1, 12, 31⟩

end Date

/-- A point in time, in UTC. The second is 60 only in a leap second. -/
structure Timestamp where
  date : Date
  hour : Nat
  minute : Nat
  second : Nat
deriving DecidableEq, Repr

namespace Timestamp

/-- The point in time at which a clock that is `offset` minutes ahead of UTC shows this. -/
def atOffset (date : Date) (hour minute second : Nat) (offset : Int) : Timestamp :=
  let minutes : Int := hour * 60 + minute - offset
  let date :=
    if minutes < 0 then date.previous
    else if 1440 ≤ minutes then date.next
    else date
  let minuteOfDay := (minutes % 1440).toNat
  ⟨date, minuteOfDay / 60, minuteOfDay % 60, second⟩

/-! Reading. Each part of the text is given back with what follows it. -/

/-- A number of one to `most` digits, after blanks. -/
def number? (most : Nat) (text : List Char) : Option (Nat × List Char) := do
  let text := Text.trimStart text
  let digits := (text.take most).takeWhile Char.isDigit
  return (← Decimal.natural? 10 digits, text.drop digits.length)

/-- A year: up to four digits, or a sign and any number of them. -/
def year? (text : List Char) : Option (Int × List Char) :=
  match Text.trimStart text with
  | '+' :: rest => signed 1 rest
  | '-' :: rest => signed (-1) rest
  | rest => (number? 4 rest).map fun (value, after) => ((value : Int), after)
where
  /-- The digits after a sign. -/
  signed (sign : Int) (text : List Char) : Option (Int × List Char) := do
    let digits := text.takeWhile Char.isDigit
    return (sign * (← Decimal.natural? 10 digits), text.drop digits.length)

/-- What follows a separator and the blanks before it. -/
def afterSeparator? (separator : Char) (text : List Char) : Option (List Char) :=
  match Text.trimStart text with
  | character :: rest => if character = separator then some rest else none
  | [] => none

def date? (text : List Char) : Option (Date × List Char) := do
  let (year, text) ← year? text
  let (month, text) ← number? 2 (← afterSeparator? '-' text)
  let (day, text) ← number? 2 (← afterSeparator? '-' text)
  let date : Date := ⟨year, month, day⟩
  if date.isValid then some (date, text) else none

/-- What follows the mark between the date and the time. -/
def afterMark? : List Char → Option (List Char)
  | mark :: rest => if mark = 'T' || mark = 't' || mark = ' ' then some rest else none
  | [] => none

/-- The fraction of a second, which is dropped. -/
def afterFraction? (text : List Char) : Option (List Char) :=
  match text with
  | '.' :: rest =>
      if rest.head?.any Char.isDigit then some (rest.dropWhile Char.isDigit) else none
  | _ => some text

def twoDigits? : List Char → Option (Nat × List Char)
  | first :: second :: rest => do
      return ((← Decimal.digit? 10 first) * 10 + (← Decimal.digit? 10 second), rest)
  | _ => none

private def isOffsetSeparator (character : Char) : Bool :=
  character = ':' || Text.isBlank character

/-- The minutes of an offset after its sign. -/
def unsignedOffset? (text : List Char) : Option (Int × List Char) := do
  let (hours, text) ← twoDigits? text
  let (minutes, text) ← twoDigits? (text.dropWhile isOffsetSeparator)
  if minutes < 60 && hours < 24 then some (hours * 60 + minutes, text) else none

/-- The offset from UTC in minutes. -/
def offset? (text : List Char) : Option (Int × List Char) :=
  if (text.take 3).map Char.toUpper = ['U', 'T', 'C'] then some (0, text.drop 3)
  else
    match text with
    | [] => none
    | sign :: rest =>
        if sign = 'Z' || sign = 'z' then some (0, rest)
        else if sign = '+' then unsignedOffset? rest
        else if sign = '-' || sign = '\u2212' then
          (unsignedOffset? rest).map fun (offset, after) => (-offset, after)
        else none

def ofText? (text : String) : Option Timestamp := do
  let (date, text) ← date? text.toList
  let (hour, text) ← number? 2 (← afterMark? text)
  let (minute, text) ← number? 2 (← afterSeparator? ':' text)
  let (second, text) ← number? 2 (← afterSeparator? ':' text)
  let text ← afterFraction? text
  let (offset, text) ← offset? (Text.trimStart text)
  if hour < 24 && minute < 60 && second ≤ 60 && Text.allBlank text then
    (some (atOffset date hour minute second offset)).filter fun timestamp =>
      Date.isYear timestamp.date.year
  else none

/-! Writing. -/

/-- The digits of a number, with zeros in front of them up to the width. -/
def padded (width value : Nat) : List Char :=
  let digits := Nat.toDigits 10 value
  List.replicate (width - digits.length) '0' ++ digits

/-- Four digits at least, and a sign in front of a year that four digits cannot hold. -/
def yearText (year : Int) : List Char :=
  let digits := padded 4 year.natAbs
  if 0 ≤ year && year ≤ 9999 then digits
  else if year < 0 then '-' :: digits
  else '+' :: digits

/-- The text of a point in time: the date, the time to the second, and the mark of UTC. -/
def text (timestamp : Timestamp) : String :=
  let date := timestamp.date
  String.ofList (yearText date.year ++ '-' :: padded 2 date.month ++ '-' :: padded 2 date.day ++
    'T' :: padded 2 timestamp.hour ++ ':' :: padded 2 timestamp.minute ++
    ':' :: padded 2 timestamp.second ++ ['Z'])

end Timestamp

end TraefikUpgrade
