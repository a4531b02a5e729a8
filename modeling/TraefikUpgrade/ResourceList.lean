import TraefikUpgrade.Log
import TraefikUpgrade.Resource
import TraefikUpgrade.Text.Blank

/-!
Contract: Kubernetes lists.

Owns: when a document is a list, which items are taken out of it, and what is
left. The Ingresses of a list become documents of their own; the other items
stay in the list, whose other entries keep their places. A document that is no
list, or a list without an Ingress, stays as it stands.

Does not own: what becomes of the documents (`TraefikUpgrade.Manifest.Convert`).
-/

set_option autoImplicit false

namespace TraefikUpgrade.ResourceList

open Yaml (Value)

def itemsKey : String := "items"

def kindEnding : String := "List"

def endsWith (ending text : String) : Bool :=
  ending.toList.isSuffixOf text.toList

def items? (entries : List (Value × Value)) : Option (List Value) := do
  let kind ← (← Value.entryOf? "kind" entries).text?
  if endsWith kindEnding kind then (← Value.entryOf? itemsKey entries).items? else none

/-- Whether an item is an Ingress of a known version. -/
def isIngress (item : Value) : Bool :=
  (ResourceType.ofValue? item).any ResourceType.isIngress

/-- A list with its Ingresses apart from the other items. -/
structure Parts where
  /-- The entries of the list, with all items. -/
  entries : List (Value × Value)
  /-- The Ingresses, in the order of the list. -/
  ingresses : List Value
  /-- The other items, in the order of the list. -/
  kept : List Value
deriving DecidableEq, Repr

/-- The parts of a document that is a list with at least one Ingress. -/
def parts? (document : String) : Option Parts :=
  match Yaml.parse document with
  | some (.mapping entries) => do
      let items ← items? entries
      let ingresses := items.filter isIngress
      if ingresses.isEmpty then none
      else some ⟨entries, ingresses, items.filter fun item => !isIngress item⟩
  | _ => none

namespace Parts

/-- What is left of the list: nothing when all its items are Ingresses. -/
def rest (parts : Parts) : List Value :=
  if parts.kept.isEmpty then []
  else [.mapping (Value.replaceEntry itemsKey (.sequence parts.kept) parts.entries)]

/-- The documents that the list becomes, as values. -/
def documents (parts : Parts) : List Value :=
  parts.rest ++ parts.ingresses

def record (parts : Parts) : LogRecord :=
  ⟨.debug, s!"extract {parts.ingresses.length} ingress(es) from list, {parts.kept.length} item(s) kept"⟩

end Parts

/-- The documents that a document becomes. -/
def extract (document : String) : Logged (List String) :=
  match parts? document with
  | none => pure [document]
  | some parts => ⟨parts.documents.map Yaml.render, [parts.record]⟩

end TraefikUpgrade.ResourceList
