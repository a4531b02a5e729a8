import TraefikUpgrade.Kubernetes.Ingress

/-!
Contract: the Ingress resource in its legacy versions.

Owns: the fields of a legacy Ingress, their reading, and the projection onto
the current version, where a service stands in a record of its own, its port is
a number or a name, and every path has a type.

Does not own: which versions are legacy (`TraefikUpgrade.Resource`).
-/

set_option autoImplicit false

namespace TraefikUpgrade.Kubernetes

open Yaml (Value)

inductive LegacyPort where
  | number (value : Int)
  | name (text : String)
deriving DecidableEq, Repr

structure LegacyBackend where
  serviceName : Option String
  servicePort : Option LegacyPort
  resource : Option ResourceReference
deriving DecidableEq, Repr

structure LegacyPath where
  backend : LegacyBackend
  path : Option String
  pathType : Option String
deriving DecidableEq, Repr

structure LegacyRule where
  host : Option String
  http : Option (List LegacyPath)
deriving DecidableEq, Repr

structure LegacySpec where
  backend : Option LegacyBackend
  ingressClassName : Option String
  rules : Option (List LegacyRule)
  tls : Option (List TlsEntry)
deriving DecidableEq, Repr

structure LegacyIngress where
  apiVersion : String
  kind : String
  metadata : ObjectMeta
  spec : Option LegacySpec
  status : Option IngressStatus
deriving DecidableEq, Repr

/-! Reading, from the value of a document. -/

/-- A port is a number or a name, and has no tag. -/
def LegacyPort.ofValue? : Value → Option LegacyPort
  | .integer value => if Decimal.isInt32 value then some (.number value) else none
  | .string text => some (.name text)
  | _ => none

def LegacyBackend.unset : LegacyBackend :=
  ⟨none, none, none⟩

def LegacyBackend.ofValue? (value : Value) : Option LegacyBackend := do
  let fields ← record? .empty ["serviceName", "servicePort", "resource"] 3 value
  return {
    serviceName := ← fields.optional "serviceName" Value.text?
    servicePort := ← fields.optional "servicePort" LegacyPort.ofValue?
    resource := ← fields.optional "resource" (ResourceReference.ofValue? .empty) }

def LegacyPath.ofValue? (value : Value) : Option LegacyPath := do
  let fields ← record? .empty ["backend", "path", "pathType"] 3 value
  return {
    backend := ← fields.orDefault "backend" LegacyBackend.ofValue? LegacyBackend.unset
    path := ← fields.optional "path" Value.text?
    pathType := ← fields.optional "pathType" Value.text? }

def legacyPaths? (value : Value) : Option (List LegacyPath) := do
  let fields ← record? .empty ["paths"] 0 value
  fields.orDefault "paths" (list? .empty LegacyPath.ofValue?) []

def LegacyRule.ofValue? (value : Value) : Option LegacyRule := do
  let fields ← record? .empty ["host", "http"] 2 value
  return {
    host := ← fields.optional "host" Value.text?
    http := ← fields.optional "http" legacyPaths? }

def LegacySpec.ofValue? (value : Value) : Option LegacySpec := do
  let fields ← record? .empty ["backend", "ingressClassName", "rules", "tls"] 4 value
  return {
    backend := ← fields.optional "backend" LegacyBackend.ofValue?
    ingressClassName := ← fields.optional "ingressClassName" Value.text?
    rules := ← fields.optional "rules" (list? .empty LegacyRule.ofValue?)
    tls := ← fields.optional "tls" (list? .empty (TlsEntry.ofValue? .empty)) }

namespace LegacyIngress

def ofValue? (value : Value) : Option LegacyIngress := do
  let fields ← record? .empty ["apiVersion", "kind", "metadata", "spec", "status"] 5 value
  return {
    apiVersion := ← fields.required "apiVersion" Value.text?
    kind := ← fields.required "kind" Value.text?
    metadata := ← fields.orDefault "metadata" (ObjectMeta.ofValue? .empty) ObjectMeta.unset
    spec := ← fields.optional "spec" LegacySpec.ofValue?
    status := ← fields.optional "status" (IngressStatus.ofValue? .empty) }

end LegacyIngress

/-! The projection onto the current version. -/

/-- The path type of a path that names none. -/
def defaultPathType : String := "ImplementationSpecific"

def LegacyPort.toCurrent : LegacyPort → ServicePort
  | .number value => ⟨none, some value⟩
  | .name text => ⟨some text, none⟩

/-- A port without a service goes to nothing. -/
def LegacyBackend.toCurrent (backend : LegacyBackend) : Backend where
  resource := backend.resource
  service := backend.serviceName.map fun name =>
    ⟨name, backend.servicePort.map LegacyPort.toCurrent⟩

def LegacyPath.toCurrent (path : LegacyPath) : HttpPath where
  backend := path.backend.toCurrent
  path := path.path
  pathType := path.pathType.getD defaultPathType

def LegacyRule.toCurrent (rule : LegacyRule) : IngressRule where
  host := rule.host
  http := rule.http.map fun paths => paths.map LegacyPath.toCurrent

def LegacySpec.toCurrent (spec : LegacySpec) : IngressSpec where
  defaultBackend := spec.backend.map LegacyBackend.toCurrent
  ingressClassName := spec.ingressClassName
  rules := spec.rules.map fun rules => rules.map LegacyRule.toCurrent
  tls := spec.tls

/-- The Ingress of the current version that says the same. -/
def LegacyIngress.toCurrent (ingress : LegacyIngress) : Ingress where
  metadata := ingress.metadata
  spec := ingress.spec.map LegacySpec.toCurrent
  status := ingress.status

end TraefikUpgrade.Kubernetes
