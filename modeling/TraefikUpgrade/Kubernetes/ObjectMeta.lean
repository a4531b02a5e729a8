import TraefikUpgrade.Kubernetes.Fields
import TraefikUpgrade.Kubernetes.Shape
import TraefikUpgrade.Timestamp

/-!
Contract: the metadata of a Kubernetes object.

Owns: the fields of metadata, their reading and their written form. Fields that
metadata does not have are dropped. Fields are written in alphabetical order.

Does not own: the meaning of annotations (`TraefikUpgrade.Annotation`).
-/

set_option autoImplicit false

namespace TraefikUpgrade.Kubernetes

open Yaml (Value)

/-- Which fields a manager of an object has set. -/
structure ManagedFields where
  apiVersion : Option String
  fieldsType : Option String
  /-- Any value without tags, with sorted texts for keys. -/
  fieldsV1 : Option Value
  manager : Option String
  operation : Option String
  subresource : Option String
  time : Option Timestamp
deriving DecidableEq, Repr

structure OwnerReference where
  apiVersion : String
  blockOwnerDeletion : Option Bool
  controller : Option Bool
  kind : String
  name : String
  uid : String
deriving DecidableEq, Repr

structure ObjectMeta where
  annotations : Option TextMap := none
  creationTimestamp : Option Timestamp := none
  deletionGracePeriodSeconds : Option Int := none
  deletionTimestamp : Option Timestamp := none
  finalizers : Option (List String) := none
  generateName : Option String := none
  generation : Option Int := none
  labels : Option TextMap := none
  managedFields : Option (List ManagedFields) := none
  name : Option String := none
  namespaceName : Option String := none
  ownerReferences : Option (List OwnerReference) := none
  resourceVersion : Option String := none
  selfLink : Option String := none
  uid : Option String := none
deriving DecidableEq, Repr

def ObjectMeta.unset : ObjectMeta := {}

def timestamp? (value : Value) : Option Timestamp :=
  value.text?.bind Timestamp.ofText?

/-- Puts an entry among entries with ascending keys, in the place of one with the same key. -/
def insertField (name : String) (value : Value) : Fields → Fields
  | [] => [(name, value)]
  | (other, present) :: rest =>
      if name < other then (name, value) :: (other, present) :: rest
      else if name = other then (name, value) :: rest
      else (other, present) :: insertField name value rest

mutual

/-- A value in which there are no tags, all keys are texts in ascending order, and a number that
is not finite is null. -/
def untyped? : Value → Option Value
  | .tagged _ _ => none
  | .sequence items => do return .sequence (← untypedItems? items)
  | .mapping entries => do return ofFields (← untypedFields? entries)
  | .float value => some (if value.isFinite then .float value else .null)
  | value => some value

def untypedItems? : List Value → Option (List Value)
  | [] => some []
  | item :: rest => do
      let item ← untyped? item
      return item :: (← untypedItems? rest)

def untypedFields? : List (Value × Value) → Option Fields
  | [] => some []
  | (.string name, value) :: rest => do
      let value ← untyped? value
      return insertField name value (← untypedFields? rest)
  | _ :: _ => none

end

def ManagedFields.ofValue? (nullObject : NullObject) (value : Value) :
    Option ManagedFields := do
  let fields ← object? nullObject value
  return {
    apiVersion := ← fields.optional "apiVersion" Value.text?
    fieldsType := ← fields.optional "fieldsType" Value.text?
    fieldsV1 := ← fields.optional "fieldsV1" untyped?
    manager := ← fields.optional "manager" Value.text?
    operation := ← fields.optional "operation" Value.text?
    subresource := ← fields.optional "subresource" Value.text?
    time := ← fields.optional "time" timestamp? }

def ofTimestamp (timestamp : Timestamp) : Value :=
  .string timestamp.text

def ManagedFields.toValue (managed : ManagedFields) : Value :=
  ofFields (
    writtenIfSet "apiVersion" .string managed.apiVersion ++
    writtenIfSet "fieldsType" .string managed.fieldsType ++
    writtenIfSet "fieldsV1" id managed.fieldsV1 ++
    writtenIfSet "manager" .string managed.manager ++
    writtenIfSet "operation" .string managed.operation ++
    writtenIfSet "subresource" .string managed.subresource ++
    writtenIfSet "time" ofTimestamp managed.time)

def OwnerReference.ofValue? (nullObject : NullObject) (value : Value) :
    Option OwnerReference := do
  let fields ← object? nullObject value
  return {
    apiVersion := ← fields.orDefault "apiVersion" Value.text? ""
    blockOwnerDeletion := ← fields.optional "blockOwnerDeletion" bool?
    controller := ← fields.optional "controller" bool?
    kind := ← fields.orDefault "kind" Value.text? ""
    name := ← fields.orDefault "name" Value.text? ""
    uid := ← fields.orDefault "uid" Value.text? "" }

def OwnerReference.toValue (reference : OwnerReference) : Value :=
  ofFields (
    written "apiVersion" (.string reference.apiVersion) ++
    writtenIfSet "blockOwnerDeletion" .bool reference.blockOwnerDeletion ++
    writtenIfSet "controller" .bool reference.controller ++
    written "kind" (.string reference.kind) ++
    written "name" (.string reference.name) ++
    written "uid" (.string reference.uid))

def ManagedFields.shape : Shape :=
  .object [("apiVersion", .text), ("fieldsType", .text), ("fieldsV1", .any), ("manager", .text),
    ("operation", .text), ("subresource", .text), ("time", .text)]

def OwnerReference.shape : Shape :=
  .object [("apiVersion", .text), ("blockOwnerDeletion", .any), ("controller", .any),
    ("kind", .text), ("name", .text), ("uid", .text)]

namespace ObjectMeta

def shape : Shape :=
  .object [("annotations", .textMap), ("creationTimestamp", .text),
    ("deletionGracePeriodSeconds", .any), ("deletionTimestamp", .text),
    ("finalizers", .list .text), ("generateName", .text), ("generation", .any),
    ("labels", .textMap), ("managedFields", .list ManagedFields.shape), ("name", .text),
    ("namespace", .text), ("ownerReferences", .list OwnerReference.shape),
    ("resourceVersion", .text), ("selfLink", .text), ("uid", .text)]

def ofValue? (nullObject : NullObject) (value : Value) : Option ObjectMeta := do
  let fields ← object? nullObject value
  return {
    annotations := ← fields.optional "annotations" (textMap? nullObject)
    creationTimestamp := ← fields.optional "creationTimestamp" timestamp?
    deletionGracePeriodSeconds := ← fields.optional "deletionGracePeriodSeconds" int64?
    deletionTimestamp := ← fields.optional "deletionTimestamp" timestamp?
    finalizers := ← fields.optional "finalizers" (texts? nullObject)
    generateName := ← fields.optional "generateName" Value.text?
    generation := ← fields.optional "generation" int64?
    labels := ← fields.optional "labels" (textMap? nullObject)
    managedFields := ←
      fields.optional "managedFields" (list? nullObject (ManagedFields.ofValue? nullObject))
    name := ← fields.optional "name" Value.text?
    namespaceName := ← fields.optional "namespace" Value.text?
    ownerReferences := ←
      fields.optional "ownerReferences" (list? nullObject (OwnerReference.ofValue? nullObject))
    resourceVersion := ← fields.optional "resourceVersion" Value.text?
    selfLink := ← fields.optional "selfLink" Value.text?
    uid := ← fields.optional "uid" Value.text? }

def toValue (metadata : ObjectMeta) : Value :=
  ofFields (
    writtenIfSet "annotations" ofTextMap metadata.annotations ++
    writtenIfSet "creationTimestamp" ofTimestamp metadata.creationTimestamp ++
    writtenIfSet "deletionGracePeriodSeconds" .integer metadata.deletionGracePeriodSeconds ++
    writtenIfSet "deletionTimestamp" ofTimestamp metadata.deletionTimestamp ++
    writtenIfSet "finalizers" ofTexts metadata.finalizers ++
    writtenIfSet "generateName" .string metadata.generateName ++
    writtenIfSet "generation" .integer metadata.generation ++
    writtenIfSet "labels" ofTextMap metadata.labels ++
    writtenIfSet "managedFields" (ofList ManagedFields.toValue) metadata.managedFields ++
    writtenIfSet "name" .string metadata.name ++
    writtenIfSet "namespace" .string metadata.namespaceName ++
    writtenIfSet "ownerReferences" (ofList OwnerReference.toValue) metadata.ownerReferences ++
    writtenIfSet "resourceVersion" .string metadata.resourceVersion ++
    writtenIfSet "selfLink" .string metadata.selfLink ++
    writtenIfSet "uid" .string metadata.uid)

end ObjectMeta

end TraefikUpgrade.Kubernetes
