import WorkflowPod.Json.Codec

/-! Environment variables of a container. -/
namespace WorkflowPod.Manifest

open Json

/-- A key of a config map or a secret. -/
structure KeySelector where
  key : String
  name : String
  optional : Option Bool := none
  deriving DecidableEq, Repr

def KeySelector.codec : Codec KeySelector :=
  .object
    (.cons (.orBlank "key" .text "") <| .cons (.orBlank "name" .text "") <|
      .cons (.optional "optional" .bool) .nil)
    (fun s => (s.key, s.name, s.optional, ()))
    (fun (key, name, optional, ()) => { key, name, optional })

structure FieldSelector where
  apiVersion : Option String := none
  fieldPath : String
  deriving DecidableEq, Repr

def FieldSelector.codec : Codec FieldSelector :=
  .object
    (.cons (.optional "apiVersion" .text) <| .cons (.orBlank "fieldPath" .text "") .nil)
    (fun s => (s.apiVersion, s.fieldPath, ()))
    (fun (apiVersion, fieldPath, ()) => { apiVersion, fieldPath })

structure ResourceSelector where
  containerName : Option String := none
  divisor : Option String := none
  resource : String
  deriving DecidableEq, Repr

def ResourceSelector.codec : Codec ResourceSelector :=
  .object
    (.cons (.optional "containerName" .text) <| .cons (.optional "divisor" .text) <|
      .cons (.orBlank "resource" .text "") .nil)
    (fun s => (s.containerName, s.divisor, s.resource, ()))
    (fun (containerName, divisor, resource, ()) => { containerName, divisor, resource })

structure ValueSource where
  configMapKeyRef : Option KeySelector := none
  fieldRef : Option FieldSelector := none
  resourceFieldRef : Option ResourceSelector := none
  secretKeyRef : Option KeySelector := none
  deriving DecidableEq, Repr

def ValueSource.codec : Codec ValueSource :=
  .object
    (.cons (.optional "configMapKeyRef" KeySelector.codec) <|
      .cons (.optional "fieldRef" FieldSelector.codec) <|
      .cons (.optional "resourceFieldRef" ResourceSelector.codec) <|
      .cons (.optional "secretKeyRef" KeySelector.codec) .nil)
    (fun s => (s.configMapKeyRef, s.fieldRef, s.resourceFieldRef, s.secretKeyRef, ()))
    (fun (configMapKeyRef, fieldRef, resourceFieldRef, secretKeyRef, ()) =>
      { configMapKeyRef, fieldRef, resourceFieldRef, secretKeyRef })

def ValueSource.ofSecretKey (secret key : String) : ValueSource :=
  { secretKeyRef := some { name := secret, key } }

/-- A variable with a value or a source of one. -/
structure Variable where
  name : String
  value : Option String := none
  valueFrom : Option ValueSource := none
  deriving DecidableEq, Repr

def Variable.codec : Codec Variable :=
  .object
    (.cons (.orBlank "name" .text "") <| .cons (.optional "value" .text) <|
      .cons (.optional "valueFrom" ValueSource.codec) .nil)
    (fun v => (v.name, v.value, v.valueFrom, ()))
    (fun (name, value, valueFrom, ()) => { name, value, valueFrom })

end WorkflowPod.Manifest
