/-!
Contract: cutting text into pieces and putting pieces together.

Owns: lines with their terminators, fields between separators, maximal runs of
a class of characters, and the joining of pieces with a separator between them.
Every function here works on lists of characters and keeps every character
that is not named as a separator.

Does not own: what a separator is in a given format.
-/

set_option autoImplicit false

namespace TraefikUpgrade.Text

/-- The lines of a text. Each line keeps its line feed; only the last one may lack it. -/
def lines : List Char → List (List Char)
  | [] => []
  | character :: rest =>
      if character = '\n' then [character] :: lines rest
      else
        match lines rest with
        | [] => [[character]]
        | line :: following => (character :: line) :: following

/-- The fields between the characters in `separates`: always one more than there are separators. -/
def fields (separates : Char → Bool) : List Char → List (List Char)
  | [] => [[]]
  | character :: rest =>
      if separates character then [] :: fields separates rest
      else
        match fields separates rest with
        | [] => [[character]]
        | field :: following => (character :: field) :: following

/-- The maximal runs of characters in `keep`, in order; none of them is empty. -/
def runs (keep : Char → Bool) (characters : List Char) : List (List Char) :=
  (fields (fun character => !keep character) characters).filter fun run => !run.isEmpty

/-- The fields between leftmost, non-overlapping occurrences of the pair `mark`, `mark`. -/
def fieldsBetweenPairs (mark : Char) : List Char → List (List Char)
  | [] => [[]]
  | [character] => [[character]]
  | first :: second :: rest =>
      if first = mark && second = mark then [] :: fieldsBetweenPairs mark rest
      else
        match fieldsBetweenPairs mark (second :: rest) with
        | [] => [[first]]
        | field :: following => (first :: field) :: following

/-- The text before and the text after the first occurrence of `mark`. -/
def cutAtFirst (mark : Char) : List Char → Option (List Char × List Char)
  | [] => none
  | character :: rest =>
      if character = mark then some ([], rest)
      else (cutAtFirst mark rest).map fun (before, after) => (character :: before, after)

/-- The pieces in order with `separator` between each two of them. -/
def joinWith (separator : List Char) : List (List Char) → List Char
  | [] => []
  | [piece] => piece
  | piece :: next :: following => piece ++ separator ++ joinWith separator (next :: following)

/-- The text after `start`, when the text begins with it. -/
def dropLeading? : (start : List Char) → List Char → Option (List Char)
  | [], characters => some characters
  | _ :: _, [] => none
  | expected :: start, character :: rest =>
      if expected = character then dropLeading? start rest else none

/-- Whether `part` occurs anywhere in the text. -/
def hasInfix (part : List Char) : List Char → Bool
  | [] => part.isEmpty
  | character :: rest => (dropLeading? part (character :: rest)).isSome || hasInfix part rest

end TraefikUpgrade.Text
