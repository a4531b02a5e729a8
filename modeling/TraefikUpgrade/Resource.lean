import TraefikUpgrade.Kubernetes.LegacyIngress
import TraefikUpgrade.Yaml.Document
import TraefikUpgrade.Yaml.Writer

/-!
Contract: what a document of a manifest is.

Owns: the type of a resource, the versions in which an Ingress is known, the
classification of a document, and why a document cannot be read.

Does not own: the documents of a list (`TraefikUpgrade.ResourceList`), and what
becomes of a resource (`TraefikUpgrade.Manifest.Convert`).
-/

set_option autoImplicit false

namespace TraefikUpgrade

open Yaml (Value)
open Kubernetes (Ingress LegacyIngress)

structure ResourceType where
  apiVersion : String
  kind : String
deriving DecidableEq, Repr

namespace ResourceType

/-- The type that a value names, if it names both parts. -/
def ofValue? (value : Value) : Option ResourceType := do
  let apiVersion ← (← value.field? "apiVersion").text?
  let kind ← (← value.field? "kind").text?
  return ⟨apiVersion, kind⟩

def legacyVersions : List String :=
  ["extensions/v1beta1", "networking.k8s.io/v1beta1"]

def ingressVersions : List String :=
  legacyVersions ++ [Ingress.apiVersion]

def isLegacy (type : ResourceType) : Bool :=
  legacyVersions.contains type.apiVersion

/-- Whether resources of the type are Ingresses of a known version. -/
def isIngress (type : ResourceType) : Bool :=
  type.kind = Ingress.kind && ingressVersions.contains type.apiVersion

end ResourceType

inductive UnreadableReason where
  /-- The text is no document. -/
  | malformed
  /-- The document names no version or no kind. -/
  | untyped
  /-- The document does not have the fields of its version. -/
  | mismatched (apiVersion : String)
deriving DecidableEq, Repr

def UnreadableReason.message : UnreadableReason → String
  | .malformed => "error decoding YAML"
  | .untyped => "Object 'apiVersion' or 'kind' is missing"
  | .mismatched apiVersion => s!"error decoding {apiVersion}"

/-- A document, classified. -/
inductive Resource where
  | unreadable (reason : UnreadableReason)
  | legacyIngress (ingress : LegacyIngress)
  | ingress (ingress : Ingress)
  | other (type : ResourceType)
deriving DecidableEq, Repr

namespace Resource

def ofIngressValue (type : ResourceType) (value : Value) : Resource :=
  let read :=
    if type.isLegacy then (LegacyIngress.ofValue? value).map Resource.legacyIngress
    else (Ingress.ofValue? .empty value).map Resource.ingress
  read.getD (.unreadable (.mismatched type.apiVersion))

def ofValue (value : Value) : Resource :=
  match ResourceType.ofValue? value with
  | none => .unreadable .untyped
  | some type => if type.isIngress then ofIngressValue type value else .other type

def ofText (text : String) : Resource :=
  match Yaml.parse text with
  | none => .unreadable .malformed
  | some value => ofValue value

/-- The Ingress of the current version that a resource is, if it is one of any version. -/
def ingress? : Resource → Option Ingress
  | .legacyIngress legacy => some legacy.toCurrent
  | .ingress current => some current
  | _ => none

end Resource

end TraefikUpgrade
