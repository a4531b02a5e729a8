import TraefikUpgrade.Yaml.Content
import TraefikUpgrade.Yaml.Node

/-!
Contract: what aliases refer to.

Owns: the numbering of anchors, the node that an alias refers to, and the
expansion of all aliases, which is bounded in depth and in number.

The number of an anchor is how many different names have been given before it,
its own included when it is given again. So the number of a repeated name is
also that of the next new one, and an alias refers to the last node of its
number in the whole document.

Does not own: the value of the expanded content (`TraefikUpgrade.Yaml.Content`).
-/

set_option autoImplicit false

namespace TraefikUpgrade.Yaml

namespace Node

/-- The names of anchors with their numbers, the last one given first. -/
abbrev Names := List (String × Nat)

/-- Gives a name: its number is how many names there are so far. -/
def insertName (names : Names) (name : String) : Names × Nat :=
  let number := names.length
  if (names.lookup name).isSome then
    ((name, number) :: names.filter (·.1 ≠ name), number)
  else ((name, number) :: names, number)

def insertAnchor (names : Names) : Option String → Names × Option Nat
  | none => (names, none)
  | some name =>
      let (names, number) := insertName names name
      (names, some number)

mutual

/-- The node with numbers for names. There is none for an alias before its anchor. -/
def numbered? (names : Names) : Node String → Option (Node Nat × Names)
  | .alias name => do return (.alias (← names.lookup name), names)
  | .scalar anchor tag plain text =>
      let (names, anchor) := insertAnchor names anchor
      some (.scalar anchor tag plain text, names)
  | .sequence anchor tag items => do
      let (names, anchor) := insertAnchor names anchor
      let (items, names) ← numberedItems? names items
      return (.sequence anchor tag items, names)
  | .mapping anchor tag entries => do
      let (names, anchor) := insertAnchor names anchor
      let (entries, names) ← numberedEntries? names entries
      return (.mapping anchor tag entries, names)

def numberedItems? (names : Names) : List (Node String) → Option (List (Node Nat) × Names)
  | [] => some ([], names)
  | item :: rest => do
      let (item, names) ← numbered? names item
      let (rest, names) ← numberedItems? names rest
      return (item :: rest, names)

def numberedEntries? (names : Names) :
    List (Node String × Node String) → Option (List (Node Nat × Node Nat) × Names)
  | [] => some ([], names)
  | (key, value) :: rest => do
      let (key, names) ← numbered? names key
      let (value, names) ← numbered? names value
      let (rest, names) ← numberedEntries? names rest
      return ((key, value) :: rest, names)

end

/-- Nodes with the numbers of their anchors, in the order in which they start. -/
abbrev Anchored := List (Nat × Node Nat)

private def anchoredHere (anchor : Option Nat) (node : Node Nat) : Anchored :=
  (anchor.map fun number => (number, node)).toList

mutual

def anchored : Node Nat → Anchored
  | .alias _ => []
  | .scalar anchor tag plain text => anchoredHere anchor (.scalar anchor tag plain text)
  | .sequence anchor tag items =>
      anchoredHere anchor (.sequence anchor tag items) ++ anchoredItems items
  | .mapping anchor tag entries =>
      anchoredHere anchor (.mapping anchor tag entries) ++ anchoredEntries entries

def anchoredItems : List (Node Nat) → Anchored
  | [] => []
  | item :: rest => anchored item ++ anchoredItems rest

def anchoredEntries : List (Node Nat × Node Nat) → Anchored
  | [] => []
  | (key, value) :: rest => anchored key ++ anchored value ++ anchoredEntries rest

end

mutual

/-- How many marks a node has: one for a scalar or an alias, two for a collection. -/
def weight : Node Nat → Nat
  | .alias _ => 1
  | .scalar .. => 1
  | .sequence _ _ items => 2 + weightItems items
  | .mapping _ _ entries => 2 + weightEntries entries

def weightItems : List (Node Nat) → Nat
  | [] => 0
  | item :: rest => weight item + weightItems rest

def weightEntries : List (Node Nat × Node Nat) → Nat
  | [] => 0
  | (key, value) :: rest => weight key + weight value + weightEntries rest

end

/-- How deep collections may be nested. -/
def greatestDepth : Nat := 128

/-- How many aliases may be expanded for each mark of the document. -/
def expansionsPerMark : Nat := 100

/-- The node that a number stands for: the last one in the document. -/
def target? (anchors : Anchored) (number : Nat) : Option (Node Nat) :=
  (anchors.reverse.find? fun anchor => anchor.1 = number).map Prod.snd

/-- A node that is no alias: the node itself, or what it refers to, at the cost of an expansion. -/
def resolve (anchors : Anchored) (node : Node Nat) : StateT Nat Option (Node Nat) :=
  match node with
  | .alias number => do
      let left ← get
      if left = 0 then failure
      set (left - 1)
      target? anchors number
  | node => pure node

/-- The content of a node with collections nested at most `depth` deep. The state is how many
expansions are left. -/
def content (anchors : Anchored) : (depth : Nat) → Node Nat → StateT Nat Option Content
  | 0, node => do
      match ← resolve anchors node with
      | .scalar _ tag plain text => return .scalar tag plain text
      | _ => failure
  | depth + 1, node => do
      match ← resolve anchors node with
      | .alias _ => failure
      | .scalar _ tag plain text => return .scalar tag plain text
      | .sequence _ tag items => return .sequence tag (← items.mapM (content anchors depth))
      | .mapping _ tag entries =>
          return .mapping tag (← entries.mapM fun (key, value) => do
            return (← content anchors depth key, ← content anchors depth value))

/-- The content of the node of a document, all aliases expanded. -/
def content? (node : Node String) : Option Content := do
  let (node, _) ← numbered? [] node
  let expansions := expansionsPerMark * weight node
  (content (anchored node) greatestDepth node).run' expansions

end Node

end TraefikUpgrade.Yaml
