import TraefikUpgrade.Text.Blank
import TraefikUpgrade.Text.Segment

/-!
Contract: a manifest as a sequence of documents.

Owns: what separates the documents of a manifest, the documents of a text, and
the text of a list of documents. A separator is a line that is `---` once its
trailing blanks are dropped. A document is a maximal run of lines that are not
separators, with its text as it stands; runs without anything but blanks are
no documents.

Does not own: what a document says (`TraefikUpgrade.Resource`).
-/

set_option autoImplicit false

namespace TraefikUpgrade.Manifest

def separator : List Char :=
  ['-', '-', '-']

def isSeparator (line : List Char) : Bool :=
  Text.trimEnd line = separator

/-- The texts between separator lines, blank ones included. -/
def sections : List (List Char) → List (List Char)
  | [] => [[]]
  | line :: rest =>
      if isSeparator line then [] :: sections rest
      else
        match sections rest with
        | [] => [line]
        | first :: following => (line ++ first) :: following

/-- The documents of a text, each with its own text unchanged. -/
def split (content : String) : List String :=
  ((sections (Text.lines content.toList)).filter fun section_ => !Text.allBlank section_).map
    String.ofList

def endLine (text : List Char) : List Char :=
  if text.getLast? = some '\n' then text else text ++ ['\n']

/-- The text of a list of documents, a separator line before each but the first. -/
def joinCharacters : List (List Char) → List Char
  | [] => []
  | first :: following =>
      following.foldl (fun joined document => endLine joined ++ separator ++ '\n' :: document)
        first

def join (documents : List String) : String :=
  String.ofList (joinCharacters (documents.map String.toList))

end TraefikUpgrade.Manifest
