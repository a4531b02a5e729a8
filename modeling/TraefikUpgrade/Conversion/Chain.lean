import TraefikUpgrade.Conversion.Attempt
import TraefikUpgrade.Middleware.Resource

/-!
Contract: the middlewares of one Ingress and the references to them.

Owns: the names of middlewares, the references of a router, which of two
attempts with one name counts (the first one, with a warning about the other),
and the order of both: references in the order of the attempts, middlewares in
the order of their names.

Does not own: which attempts there are (`TraefikUpgrade.Conversion.Attempt`).
-/

set_option autoImplicit false

namespace TraefikUpgrade

/-- Whose middlewares are made, and who provides them. -/
structure ChainOwner where
  namespaceName : String
  name : String
  provider : String
deriving DecidableEq, Repr

namespace ChainOwner

def middlewareName (owner : ChainOwner) (suffix : String) : String :=
  owner.name ++ "-" ++ suffix

def reference (owner : ChainOwner) (middlewareName : String) : String :=
  s!"{owner.namespaceName}-{middlewareName}@{owner.provider}"

def duplicateWarning (owner : ChainOwner) (middlewareName : String) : LogRecord :=
  ⟨.warn, s!"{owner.namespaceName}/{owner.name}: Middleware {middlewareName} is generated more than once, keeping the first one"⟩

end ChainOwner

/-- References and middlewares in the order in which they came. -/
structure Chain where
  references : List String
  middlewares : List Middleware
deriving DecidableEq, Repr

namespace Chain

def empty : Chain :=
  ⟨[], []⟩

/-- Adds a reference to a middleware that is made elsewhere. -/
def addReference (chain : Chain) (reference : String) : Chain :=
  { chain with references := chain.references ++ [reference] }

def hasName (chain : Chain) (name : String) : Bool :=
  chain.middlewares.any fun middleware => middleware.name = name

/-- Adds the middleware of an attempt, unless its name is taken. -/
def push (owner : ChainOwner) (chain : Chain) (attempt : Attempt) : Logged Chain :=
  let name := owner.middlewareName attempt.suffix
  if chain.hasName name then ⟨chain, [owner.duplicateWarning name]⟩
  else
    pure {
      references := chain.references ++ [owner.reference name]
      middlewares :=
        chain.middlewares ++ [Middleware.named owner.namespaceName name attempt.kind] }

def pushAll (owner : ChainOwner) (chain : Chain) : List Attempt → Logged Chain
  | [] => pure chain
  | attempt :: rest => do
      let chain ← push owner chain attempt
      pushAll owner chain rest

def sortedMiddlewares (chain : Chain) : List Middleware :=
  chain.middlewares.mergeSort fun first second => decide (first.name ≤ second.name)

end Chain

end TraefikUpgrade
