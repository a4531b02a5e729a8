import TraefikUpgrade.Annotation.Reading
import TraefikUpgrade.Kubernetes.ObjectMeta

/-!
Contract: the Ingress resource in its current version.

Owns: the fields of an Ingress, their reading and their written form. Fields
that an Ingress does not have are dropped. Fields are written in alphabetical
order after the version and the kind.

Does not own: the legacy versions (`TraefikUpgrade.Kubernetes.LegacyIngress`).
-/

set_option autoImplicit false

namespace TraefikUpgrade.Kubernetes

open Yaml (Value)

structure ResourceReference where
  apiGroup : Option String
  kind : String
  name : String
deriving DecidableEq, Repr

structure ServicePort where
  name : Option String
  number : Option Int
deriving DecidableEq, Repr

structure ServiceBackend where
  name : String
  port : Option ServicePort
deriving DecidableEq, Repr

structure Backend where
  resource : Option ResourceReference
  service : Option ServiceBackend
deriving DecidableEq, Repr

structure HttpPath where
  backend : Backend
  path : Option String
  pathType : String
deriving DecidableEq, Repr

structure IngressRule where
  host : Option String
  /-- The paths of the rule; a rule without an HTTP part has none. -/
  http : Option (List HttpPath)
deriving DecidableEq, Repr

structure TlsEntry where
  hosts : Option (List String)
  secretName : Option String
deriving DecidableEq, Repr

structure IngressSpec where
  defaultBackend : Option Backend
  ingressClassName : Option String
  rules : Option (List IngressRule)
  tls : Option (List TlsEntry)
deriving DecidableEq, Repr

structure PortStatus where
  fault : Option String
  port : Int
  protocol : String
deriving DecidableEq, Repr

structure LoadBalancerEntry where
  hostname : Option String
  ip : Option String
  ports : Option (List PortStatus)
deriving DecidableEq, Repr

/-- The status of a load balancer: the points at which it can be reached. -/
structure LoadBalancerStatus where
  ingress : Option (List LoadBalancerEntry)
deriving DecidableEq, Repr

structure IngressStatus where
  loadBalancer : Option LoadBalancerStatus
deriving DecidableEq, Repr

structure Ingress where
  metadata : ObjectMeta
  spec : Option IngressSpec
  status : Option IngressStatus
deriving DecidableEq, Repr

/-! Reading. -/

def ResourceReference.ofValue? (nullObject : NullObject) (value : Value) :
    Option ResourceReference := do
  let fields ← object? nullObject value
  return {
    apiGroup := ← fields.optional "apiGroup" Value.text?
    kind := ← fields.orDefault "kind" Value.text? ""
    name := ← fields.orDefault "name" Value.text? "" }

def ServicePort.ofValue? (nullObject : NullObject) (value : Value) : Option ServicePort := do
  let fields ← object? nullObject value
  return {
    name := ← fields.optional "name" Value.text?
    number := ← fields.optional "number" int32? }

def ServiceBackend.ofValue? (nullObject : NullObject) (value : Value) :
    Option ServiceBackend := do
  let fields ← object? nullObject value
  return {
    name := ← fields.orDefault "name" Value.text? ""
    port := ← fields.optional "port" (ServicePort.ofValue? nullObject) }

def Backend.unset : Backend :=
  ⟨none, none⟩

def Backend.ofValue? (nullObject : NullObject) (value : Value) : Option Backend := do
  let fields ← object? nullObject value
  return {
    resource := ← fields.optional "resource" (ResourceReference.ofValue? nullObject)
    service := ← fields.optional "service" (ServiceBackend.ofValue? nullObject) }

def HttpPath.ofValue? (nullObject : NullObject) (value : Value) : Option HttpPath := do
  let fields ← object? nullObject value
  return {
    backend := ← fields.orDefault "backend" (Backend.ofValue? nullObject) Backend.unset
    path := ← fields.optional "path" Value.text?
    pathType := ← fields.orDefault "pathType" Value.text? "" }

def httpPaths? (nullObject : NullObject) (value : Value) : Option (List HttpPath) := do
  let fields ← object? nullObject value
  fields.orDefault "paths" (list? nullObject (HttpPath.ofValue? nullObject)) []

def IngressRule.ofValue? (nullObject : NullObject) (value : Value) : Option IngressRule := do
  let fields ← object? nullObject value
  return {
    host := ← fields.optional "host" Value.text?
    http := ← fields.optional "http" (httpPaths? nullObject) }

def TlsEntry.ofValue? (nullObject : NullObject) (value : Value) : Option TlsEntry := do
  let fields ← object? nullObject value
  return {
    hosts := ← fields.optional "hosts" (texts? nullObject)
    secretName := ← fields.optional "secretName" Value.text? }

def IngressSpec.ofValue? (nullObject : NullObject) (value : Value) : Option IngressSpec := do
  let fields ← object? nullObject value
  return {
    defaultBackend := ← fields.optional "defaultBackend" (Backend.ofValue? nullObject)
    ingressClassName := ← fields.optional "ingressClassName" Value.text?
    rules := ← fields.optional "rules" (list? nullObject (IngressRule.ofValue? nullObject))
    tls := ← fields.optional "tls" (list? nullObject (TlsEntry.ofValue? nullObject)) }

def PortStatus.ofValue? (nullObject : NullObject) (value : Value) : Option PortStatus := do
  let fields ← object? nullObject value
  return {
    fault := ← fields.optional "error" Value.text?
    port := ← fields.orDefault "port" int32? 0
    protocol := ← fields.orDefault "protocol" Value.text? "" }

def LoadBalancerEntry.ofValue? (nullObject : NullObject) (value : Value) :
    Option LoadBalancerEntry := do
  let fields ← object? nullObject value
  return {
    hostname := ← fields.optional "hostname" Value.text?
    ip := ← fields.optional "ip" Value.text?
    ports := ← fields.optional "ports" (list? nullObject (PortStatus.ofValue? nullObject)) }

def LoadBalancerStatus.ofValue? (nullObject : NullObject) (value : Value) :
    Option LoadBalancerStatus := do
  let fields ← object? nullObject value
  return {
    ingress :=
      ← fields.optional "ingress" (list? nullObject (LoadBalancerEntry.ofValue? nullObject)) }

def IngressStatus.ofValue? (nullObject : NullObject) (value : Value) :
    Option IngressStatus := do
  let fields ← object? nullObject value
  return {
    loadBalancer :=
      ← fields.optional "loadBalancer" (LoadBalancerStatus.ofValue? nullObject) }

/-- Whether a field is absent or the given text. -/
def Fields.allows (fields : Fields) (name expected : String) : Bool :=
  match fields.get? name with
  | none => true
  | some value => value.text? = some expected

namespace Ingress

def apiVersion : String := "networking.k8s.io/v1"

def kind : String := "Ingress"

/-- The Ingress that a value stands for. The version and the kind may be left out. -/
def ofValue? (nullObject : NullObject) (value : Value) : Option Ingress := do
  let fields ← object? nullObject value
  if fields.allows "apiVersion" apiVersion && fields.allows "kind" kind then
    return {
      metadata :=
        ← fields.orDefault "metadata" (ObjectMeta.ofValue? nullObject) ObjectMeta.unset
      spec := ← fields.optional "spec" (IngressSpec.ofValue? nullObject)
      status := ← fields.optional "status" (IngressStatus.ofValue? nullObject) }
  else none

end Ingress

/-! Writing. -/

def ResourceReference.toValue (reference : ResourceReference) : Value :=
  ofFields (
    writtenIfSet "apiGroup" .string reference.apiGroup ++
    written "kind" (.string reference.kind) ++
    written "name" (.string reference.name))

def ServicePort.toValue (port : ServicePort) : Value :=
  ofFields (
    writtenIfSet "name" .string port.name ++
    writtenIfSet "number" .integer port.number)

def ServiceBackend.toValue (service : ServiceBackend) : Value :=
  ofFields (
    written "name" (.string service.name) ++
    writtenIfSet "port" ServicePort.toValue service.port)

def Backend.toValue (backend : Backend) : Value :=
  ofFields (
    writtenIfSet "resource" ResourceReference.toValue backend.resource ++
    writtenIfSet "service" ServiceBackend.toValue backend.service)

def HttpPath.toValue (path : HttpPath) : Value :=
  ofFields (
    written "backend" path.backend.toValue ++
    writtenIfSet "path" .string path.path ++
    written "pathType" (.string path.pathType))

def ofHttpPaths (paths : List HttpPath) : Value :=
  ofFields (written "paths" (ofList HttpPath.toValue paths))

def IngressRule.toValue (rule : IngressRule) : Value :=
  ofFields (
    writtenIfSet "host" .string rule.host ++
    writtenIfSet "http" ofHttpPaths rule.http)

def TlsEntry.toValue (entry : TlsEntry) : Value :=
  ofFields (
    writtenIfSet "hosts" ofTexts entry.hosts ++
    writtenIfSet "secretName" .string entry.secretName)

def IngressSpec.toValue (spec : IngressSpec) : Value :=
  ofFields (
    writtenIfSet "defaultBackend" Backend.toValue spec.defaultBackend ++
    writtenIfSet "ingressClassName" .string spec.ingressClassName ++
    writtenIfSet "rules" (ofList IngressRule.toValue) spec.rules ++
    writtenIfSet "tls" (ofList TlsEntry.toValue) spec.tls)

def PortStatus.toValue (status : PortStatus) : Value :=
  ofFields (
    writtenIfSet "error" .string status.fault ++
    written "port" (.integer status.port) ++
    written "protocol" (.string status.protocol))

def LoadBalancerEntry.toValue (entry : LoadBalancerEntry) : Value :=
  ofFields (
    writtenIfSet "hostname" .string entry.hostname ++
    writtenIfSet "ip" .string entry.ip ++
    writtenIfSet "ports" (ofList PortStatus.toValue) entry.ports)

def LoadBalancerStatus.toValue (status : LoadBalancerStatus) : Value :=
  ofFields (writtenIfSet "ingress" (ofList LoadBalancerEntry.toValue) status.ingress)

def IngressStatus.toValue (status : IngressStatus) : Value :=
  ofFields (writtenIfSet "loadBalancer" LoadBalancerStatus.toValue status.loadBalancer)

namespace Ingress

def toValue (ingress : Ingress) : Value :=
  ofFields (
    written "apiVersion" (.string apiVersion) ++
    written "kind" (.string kind) ++
    written "metadata" ingress.metadata.toValue ++
    writtenIfSet "spec" IngressSpec.toValue ingress.spec ++
    writtenIfSet "status" IngressStatus.toValue ingress.status)

def annotations (ingress : Ingress) : Annotations :=
  ⟨ingress.metadata.annotations⟩

end Ingress

end TraefikUpgrade.Kubernetes
