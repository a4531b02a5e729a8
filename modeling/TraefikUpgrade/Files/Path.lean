import TraefikUpgrade.Text.Segment
import TraefikUpgrade.Text.Utf8

/-!
Contract: paths as texts.

Owns: the names in a path, the last name, the path without it, and the joining
of a path with a name. Slashes separate names; several slashes are one.

Does not own: what a path leads to (`TraefikUpgrade.Files.FileSystem`).
-/

set_option autoImplicit false

namespace TraefikUpgrade.Files.Path

private def isSlash (character : Char) : Bool :=
  character = '/'

/-- The texts between slashes, empty ones left out. -/
def names (path : String) : List String :=
  ((Text.fields isSlash path.toList).filter fun name => !name.isEmpty).map String.ofList

def isAbsolute (path : String) : Bool :=
  path.toList.head? = some '/'

def endsWithSlash (path : String) : Bool :=
  path.toList.getLast? = some '/'

def current : String := "."

def parentName : String := ".."

/-- The last name of a path, where names for the directory itself do not count. There is none for
the root, the current directory and a path that ends above something. -/
def fileName? (path : String) : Option String := do
  let name ← ((names path).filter fun name => name ≠ current).getLast?
  if name = parentName then none else some name

def join (directory name : String) : String :=
  if directory.isEmpty || endsWithSlash directory then directory ++ name
  else directory ++ "/" ++ name

def ofNames (absolute : Bool) (names : List String) : String :=
  let joined := String.ofList (Text.joinWith ['/'] (names.map String.toList))
  if absolute then "/" ++ joined else joined

/-- The names without those for the directory itself, except at the start of a relative path. -/
def normalNames (path : String) : List String :=
  match names path with
  | [] => []
  | first :: rest =>
      let rest := rest.filter fun name => name ≠ current
      if first = current && isAbsolute path then rest else first :: rest

/-- The path without its last name. There is none for the root and for the empty path. -/
def parent? (path : String) : Option String :=
  match normalNames path with
  | [] => none
  | names => some (ofNames (isAbsolute path) names.dropLast)

/-- The greatest number of bytes in a name. -/
def greatestNameLength : Nat := 255

/-- The greatest number of bytes in a path. -/
def greatestPathLength : Nat := 4095

def byteLength (text : String) : Nat :=
  text.utf8ByteSize

end TraefikUpgrade.Files.Path
