import TraefikUpgrade.Configuration
import TraefikUpgrade.Conversion.Chain

/-!
Contract: the conversion of one Ingress.

Owns: which Ingresses are converted, what is reported about one, the
middlewares that it becomes, and the two router annotations that it gets.
Everything else of the Ingress stays as it is.

Does not own: the documents around an Ingress (`TraefikUpgrade.Manifest.Convert`).
-/

set_option autoImplicit false

namespace TraefikUpgrade

open Annotation
open Kubernetes (Ingress)

/-- A converted Ingress and the middlewares that it refers to. -/
@[ext]
structure Conversion where
  ingress : Ingress
  middlewares : List Middleware
deriving DecidableEq, Repr

namespace Conversion

/-- The name of an Ingress, empty when it has none. -/
def name (ingress : Ingress) : String :=
  ingress.metadata.name.getD ""

/-- The namespace of an Ingress, or the default one. -/
def namespaceName (configuration : Configuration) (ingress : Ingress) : String :=
  ingress.metadata.namespaceName.getD configuration.defaultNamespace

/-- How records name an Ingress. -/
def resource (configuration : Configuration) (ingress : Ingress) : String :=
  s!"{namespaceName configuration ingress}/{name ingress}"

/-- The ingress class of an Ingress that is left alone because of it. -/
def foreignClass? (configuration : Configuration) (annotations : Annotations) :
    Option String :=
  (annotations.value? Key.ingressClass).filter fun value =>
    !Text.hasInfix configuration.ingressClassMarker.toList value.toList

def unsupportedWarnings (annotations : Annotations) (resource : String) : List LogRecord :=
  (Key.unsupported.filter fun entry => annotations.contains entry.1).map fun (key, hint) =>
    ⟨.warn, s!"{resource}: The annotation {key} on Ingress must be converted manually. {hint}"⟩

def annotate (ingress : Ingress) (key value : String) : Ingress :=
  let annotations := (ingress.metadata.annotations.getD TextMap.empty).insert key value
  { ingress with metadata := { ingress.metadata with annotations := some annotations } }

def withEntryPoints (ingress : Ingress) : Ingress :=
  match ingress.annotations.value? Key.frontendEntryPoints with
  | some entryPoints => annotate ingress Key.routerEntryPoints entryPoints
  | none => ingress

def joinReferences (references : List String) : String :=
  String.ofList (Text.joinWith [','] (references.map String.toList))

/-- The Ingress with the references of its router, if there are any. -/
def withReferences (ingress : Ingress) (references : List String) : Ingress :=
  if references.isEmpty then ingress
  else annotate ingress Key.routerMiddlewares (joinReferences references)

/-- The chain before any attempt: with a reference when the Ingress redirects to HTTPS. -/
def initialChain (configuration : Configuration) (annotations : Annotations) : Chain :=
  if annotations.contains Key.sslRedirect then
    Chain.empty.addReference configuration.sslRedirectMiddleware
  else Chain.empty

def owner (configuration : Configuration) (ingress : Ingress) : ChainOwner where
  namespaceName := namespaceName configuration ingress
  name := name ingress
  provider := configuration.middlewareProvider

def ofChain (ingress : Ingress) (chain : Chain) : Conversion where
  ingress := withReferences (withEntryPoints ingress) chain.references
  middlewares := chain.sortedMiddlewares

def convertHandled (configuration : Configuration) (ingress : Ingress) :
    Logged (Except ConversionError Conversion) := do
  let annotations := ingress.annotations
  let owner := owner configuration ingress
  let resource := resource configuration ingress
  ⟨(), unsupportedWarnings annotations resource⟩
  let general ← Attempt.ofAnnotations annotations resource
  match ← RuleType.ofAnnotations annotations with
  | .error error => return .error error
  | .ok ruleType =>
      let attempts := general ++ Attempt.ofRoutes annotations ruleType ingress.routes
      let chain ← (initialChain configuration annotations).pushAll owner attempts
      if ingress.routes.any (Attempt.isConflicting annotations ruleType) then
        return .error .rewriteTargetWithReplacePath
      else return .ok (ofChain ingress chain)

/-- The conversion of an Ingress. One of a foreign class stays as it is. -/
def convert (configuration : Configuration) (ingress : Ingress) :
    Logged (Except ConversionError Conversion) :=
  match foreignClass? configuration ingress.annotations with
  | some foreign =>
      ⟨.ok ⟨ingress, []⟩,
        [⟨.debug, s!"{resource configuration ingress}: ingress class {Text.quoted foreign} is not handled, skipping"⟩]⟩
  | none => convertHandled configuration ingress

end Conversion

end TraefikUpgrade
