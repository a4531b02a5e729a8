import TraefikUpgrade.Yaml.Token.Basic

/-!
Contract: the nodes of a document as they are written, aliases included.

Owns: the grammar of tokens. A document is one node, with directives before it
and end marks after it; a missing node is an empty scalar. Tag handles are
resolved here, because directives give them their meaning.

Does not own: what aliases refer to (`TraefikUpgrade.Yaml.Alias`), and what
scalars stand for (`TraefikUpgrade.Yaml.Content`).
-/

set_option autoImplicit false

namespace TraefikUpgrade.Yaml

/-- A node with names of the given type for anchors and aliases. -/
inductive Node (Name : Type) where
  | alias (name : Name)
  | scalar (anchor : Option Name) (tag : Option String) (plain : Bool) (text : String)
  | sequence (anchor : Option Name) (tag : Option String) (items : List (Node Name))
  | mapping (anchor : Option Name) (tag : Option String) (entries : List (Node Name × Node Name))
deriving Repr

/-- What stands before a node. -/
structure Properties where
  anchor : Option String
  tag : Option String
deriving DecidableEq, Repr

namespace Node

/-- A node that is not written. -/
def missing (properties : Properties) : Node String :=
  .scalar properties.anchor properties.tag true ""

/-- A node that is not written and has neither an anchor nor a tag. -/
def absent : Node String :=
  missing ⟨none, none⟩

/-- The tag that a lone exclamation mark is. -/
def nonSpecificTag : String := "!"

/-- A written scalar, for which the non-specific tag is the same as none. -/
def ofScalar (properties : Properties) (plain : Bool) (text : String) : Node String :=
  .scalar properties.anchor (properties.tag.filter (· ≠ nonSpecificTag)) plain text

abbrev Handles := List (String × String)

def defaultHandles : Handles :=
  [("!", "!"), ("!!", "tag:yaml.org,2002:")]

def resolvedTag? (handles : Handles) (handle suffix : String) : Option String :=
  if handle.isEmpty then some suffix
  else (handles.lookup handle).map fun start => start ++ suffix

/-- The anchor and the tag before a node, in either order, and the tokens after them. -/
def properties? (handles : Handles) : List Token → Option (Properties × List Token)
  | .anchor name :: .tag handle suffix :: rest => do
      return (⟨some name, some (← resolvedTag? handles handle suffix)⟩, rest)
  | .tag handle suffix :: .anchor name :: rest => do
      return (⟨some name, some (← resolvedTag? handles handle suffix)⟩, rest)
  | .anchor name :: rest => some (⟨some name, none⟩, rest)
  | .tag handle suffix :: rest => do
      return (⟨none, some (← resolvedTag? handles handle suffix)⟩, rest)
  | tokens => some (⟨none, none⟩, tokens)

/-- Where a node stands, which decides the collections that it can be. -/
inductive Position where
  /-- In a block: any collection. -/
  | block
  /-- A key or value of a block mapping: also a sequence in the column of the mapping. -/
  | blockEntry
  /-- In a flow collection: only flow collections. -/
  | flow
deriving DecidableEq, Repr

/-- Whether the next token is one of those that stand where a node is missing. -/
def missingBefore (ends : List Token) (tokens : List Token) : Bool :=
  tokens.head?.any fun token => ends.contains token

variable (handles : Handles)

mutual

/-- A node and the tokens after it. Every reading in this block takes one of `steps`. -/
def read : (steps : Nat) → Position → List Token → Option (Node String × List Token)
  | 0, _, _ => none
  | _ + 1, _, .alias name :: rest => some (.alias name, rest)
  | steps + 1, position, tokens => do
      let (properties, tokens) ← properties? handles tokens
      match tokens with
      | .scalar plain text :: rest => return (ofScalar properties plain text, rest)
      | .flowSequenceStart :: rest =>
          let (items, rest) ← flowItems steps true rest
          return (.sequence properties.anchor properties.tag items, rest)
      | .flowMappingStart :: rest =>
          let (entries, rest) ← flowEntries steps true rest
          return (.mapping properties.anchor properties.tag entries, rest)
      | .blockEntry :: _ =>
          if position = .blockEntry then
            let (items, rest) ← columnItems steps tokens
            return (.sequence properties.anchor properties.tag items, rest)
          else ifMissing properties tokens
      | .blockSequenceStart :: rest =>
          if position = .flow then ifMissing properties tokens
          else
            let (items, rest) ← blockItems steps rest
            return (.sequence properties.anchor properties.tag items, rest)
      | .blockMappingStart :: rest =>
          if position = .flow then ifMissing properties tokens
          else
            let (entries, rest) ← blockEntries steps rest
            return (.mapping properties.anchor properties.tag entries, rest)
      | _ => ifMissing properties tokens
where
  /-- Only a node with an anchor or a tag can be missing here. -/
  ifMissing (properties : Properties) (tokens : List Token) :
      Option (Node String × List Token) :=
    if properties.anchor.isNone && properties.tag.isNone then none
    else some (missing properties, tokens)

/-- A node, or the absent one before a token of `ends`. -/
def readUnless (ends : List Token) :
    (steps : Nat) → Position → List Token → Option (Node String × List Token)
  | 0, _, _ => none
  | steps + 1, position, tokens =>
      if missingBefore ends tokens then some (absent, tokens) else read steps position tokens

/-- The items of a block sequence up to its end. -/
def blockItems : (steps : Nat) → List Token → Option (List (Node String) × List Token)
  | 0, _ => none
  | steps + 1, .blockEntry :: rest => do
      let (item, rest) ← readUnless [.blockEntry, .blockEnd] steps .block rest
      let (items, rest) ← blockItems steps rest
      return (item :: items, rest)
  | _ + 1, .blockEnd :: rest => some ([], rest)
  | _ + 1, _ => none

/-- The items of a sequence in the column of its mapping, which has no end of its own. -/
def columnItems : (steps : Nat) → List Token → Option (List (Node String) × List Token)
  | 0, _ => none
  | steps + 1, .blockEntry :: rest => do
      let (item, rest) ← readUnless [.blockEntry, .key, .value, .blockEnd] steps .block rest
      let (items, rest) ← columnItems steps rest
      return (item :: items, rest)
  | _ + 1, tokens => some ([], tokens)

/-- The entries of a block mapping up to its end. -/
def blockEntries :
    (steps : Nat) → List Token → Option (List (Node String × Node String) × List Token)
  | 0, _ => none
  | steps + 1, .key :: rest => do
      let (key, rest) ← readUnless [.key, .value, .blockEnd] steps .blockEntry rest
      let (value, rest) ← blockValue steps rest
      let (entries, rest) ← blockEntries steps rest
      return ((key, value) :: entries, rest)
  | _ + 1, .blockEnd :: rest => some ([], rest)
  | _ + 1, _ => none

def blockValue : (steps : Nat) → List Token → Option (Node String × List Token)
  | 0, _ => none
  | steps + 1, .value :: rest =>
      readUnless [.key, .value, .blockEnd] steps .blockEntry rest
  | _ + 1, tokens => some (absent, tokens)

/-- The items of a flow sequence up to its end; `first` tells that none has been read. -/
def flowItems :
    (steps : Nat) → (first : Bool) → List Token → Option (List (Node String) × List Token)
  | 0, _, _ => none
  | _ + 1, _, .flowSequenceEnd :: rest => some ([], rest)
  | steps + 1, true, tokens => flowItem steps tokens
  | steps + 1, false, .flowEntry :: rest => flowItem steps rest
  | _ + 1, false, _ => none

/-- One item of a flow sequence, which may be a single entry of a mapping, and those after it. -/
def flowItem : (steps : Nat) → List Token → Option (List (Node String) × List Token)
  | 0, _ => none
  | _ + 1, .flowSequenceEnd :: rest => some ([], rest)
  | steps + 1, .key :: rest => do
      let (key, rest) ← pairKey steps rest
      let (value, rest) ← flowValue [.flowEntry, .flowSequenceEnd] steps rest
      let (items, rest) ← flowItems steps false rest
      return (.mapping none none [(key, value)] :: items, rest)
  | steps + 1, tokens => do
      let (item, rest) ← read steps .flow tokens
      let (items, rest) ← flowItems steps false rest
      return (item :: items, rest)

/-- The key of a single entry in a flow sequence. The token that shows that the key is absent
goes with it. -/
def pairKey : (steps : Nat) → List Token → Option (Node String × List Token)
  | 0, _ => none
  | steps + 1, tokens =>
      if missingBefore [.value, .flowEntry, .flowSequenceEnd] tokens then
        some (absent, tokens.drop 1)
      else read steps .flow tokens

def flowValue (ends : List Token) :
    (steps : Nat) → List Token → Option (Node String × List Token)
  | 0, _ => none
  | steps + 1, .value :: rest => readUnless ends steps .flow rest
  | _ + 1, tokens => some (absent, tokens)

/-- The entries of a flow mapping up to its end; `first` tells that none has been read. -/
def flowEntries :
    (steps : Nat) → (first : Bool) → List Token →
      Option (List (Node String × Node String) × List Token)
  | 0, _, _ => none
  | _ + 1, _, .flowMappingEnd :: rest => some ([], rest)
  | steps + 1, true, tokens => flowMappingEntry steps tokens
  | steps + 1, false, .flowEntry :: rest => flowMappingEntry steps rest
  | _ + 1, false, _ => none

/-- One entry of a flow mapping, and those after it. A node without a mark is a key without a
value. -/
def flowMappingEntry :
    (steps : Nat) → List Token → Option (List (Node String × Node String) × List Token)
  | 0, _ => none
  | _ + 1, .flowMappingEnd :: rest => some ([], rest)
  | steps + 1, .key :: rest => do
      let (key, rest) ← readUnless [.value, .flowEntry, .flowMappingEnd] steps .flow rest
      let (value, rest) ← flowValue [.flowEntry, .flowMappingEnd] steps rest
      let (entries, rest) ← flowEntries steps false rest
      return ((key, value) :: entries, rest)
  | steps + 1, tokens => do
      let (key, rest) ← read steps .flow tokens
      let (entries, rest) ← flowEntries steps false rest
      return ((key, absent) :: entries, rest)

end

/-- The directives at the start: the handles with those that they declare, and the tokens after
them. No directive may be given twice. -/
def directives? (versionSeen : Bool) (declared : Handles) :
    List Token → Option (Handles × List Token)
  | .versionDirective :: rest =>
      if versionSeen then none else directives? true declared rest
  | .tagDirective handle start :: rest =>
      if (declared.lookup handle).isSome then none
      else directives? versionSeen ((handle, start) :: declared) rest
  | tokens => some (declared ++ defaultHandles, tokens)

/-- Whether a token starts a document with marks. -/
def startsMarkedDocument : Token → Bool
  | .versionDirective => true
  | .tagDirective _ _ => true
  | .documentStart => true
  | _ => false

/-- Whether nothing stands between the start mark of a document and the token. -/
def endsDocument (token : Token) : Bool :=
  startsMarkedDocument token || token = .documentEnd

/-- The node after the start mark of a document, and the tokens after it. -/
def afterStart (handles : Handles) (tokens : List Token) : Option (Node String × List Token) :=
  if tokens.head?.all endsDocument then some (absent, tokens)
  else read handles (6 * tokens.length + 6) .block tokens

/-- The node of the tokens of one document, `none` inside when there is no token at all. Nothing
but end marks may follow it. -/
def ofTokens? (tokens : List Token) : Option (Option (Node String)) :=
  match tokens with
  | [] => some none
  | first :: _ => do
      let (node, rest) ←
        if startsMarkedDocument first then do
          let (handles, rest) ← directives? false [] tokens
          match rest with
          | .documentStart :: rest => afterStart handles rest
          | _ => none
        else read defaultHandles (6 * tokens.length + 6) .block tokens
      if rest.all fun token => token = .documentEnd then some (some node) else none

end Node

end TraefikUpgrade.Yaml
