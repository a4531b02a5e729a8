/-!
Contract: why an operation on files fails.

Owns: the faults and their texts, which end with the number of the fault where
it has one.

Does not own: what was being done to which file (`TraefikUpgrade.RunError`).
-/

set_option autoImplicit false

namespace TraefikUpgrade.Files

inductive Fault where
  | notFound
  | alreadyExists
  | notADirectory
  | isADirectory
  | nameTooLong
  | tooManyLinks
  /-- The path holds a character that no path can hold. -/
  | invalidPath
  | other (message : String)
deriving DecidableEq, Repr

def Fault.message : Fault → String
  | .notFound => "No such file or directory (os error 2)"
  | .alreadyExists => "File exists (os error 17)"
  | .notADirectory => "Not a directory (os error 20)"
  | .isADirectory => "Is a directory (os error 21)"
  | .nameTooLong => "File name too long (os error 36)"
  | .tooManyLinks => "Too many levels of symbolic links (os error 40)"
  | .invalidPath => "file name contained an unexpected NUL byte"
  | .other message => message

end TraefikUpgrade.Files
