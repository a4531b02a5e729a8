import TraefikUpgrade.Yaml.Cell

/-!
Contract: the folding of lines in a scalar.

Owns: what a run of spacing and breaks between two words of a scalar stands
for. Without a break it stands for itself. One line feed is a space, and each
further break stands for itself; spacing beside a break is dropped.

Does not own: where a run starts and ends, which differs between the styles.
-/

set_option autoImplicit false

namespace TraefikUpgrade.Yaml

/-- What is gathered between two words of a scalar. -/
structure Gap where
  /-- The spacing and the breaks, the last one first. -/
  reversed : List Char
  /-- Whether an escape before the gap has taken its first break away. -/
  escaped : Bool
deriving DecidableEq, Repr

namespace Gap

def none : Gap :=
  ⟨[], false⟩

def afterEscapedBreak : Gap :=
  ⟨[], true⟩

def push (gap : Gap) (character : Char) : Gap :=
  ⟨character :: gap.reversed, gap.escaped⟩

def hasBreak (gap : Gap) : Bool :=
  gap.reversed.any isBreak

def folded (gap : Gap) : List Char :=
  let run := gap.reversed.reverse
  match run.filter isBreak with
  | [] => if gap.escaped then [] else run
  | first :: further =>
      if gap.escaped then first :: further
      else if first = '\n' then if further.isEmpty then [' '] else further
      else first :: further

end Gap

end TraefikUpgrade.Yaml
