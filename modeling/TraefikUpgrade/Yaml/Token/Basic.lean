/-!
Contract: the tokens of a document.

Owns: the type of tokens. Block collections have a start and an end although
nothing is written for them; the columns of their entries give them.

Does not own: how a text is cut into tokens (`TraefikUpgrade.Yaml.Token.Reading`)
and which token sequences are documents (`TraefikUpgrade.Yaml.Node`).
-/

set_option autoImplicit false

namespace TraefikUpgrade.Yaml

inductive Token where
  | versionDirective
  | tagDirective (handle start : String)
  | documentStart
  | documentEnd
  | blockSequenceStart
  | blockMappingStart
  | blockEnd
  | flowSequenceStart
  | flowSequenceEnd
  | flowMappingStart
  | flowMappingEnd
  | blockEntry
  | flowEntry
  | key
  | value
  | alias (name : String)
  | anchor (name : String)
  /-- A tag as its handle and what follows it; the handle is empty when the tag has none. -/
  | tag (handle suffix : String)
  | scalar (plain : Bool) (text : String)
deriving DecidableEq, Repr

end TraefikUpgrade.Yaml
