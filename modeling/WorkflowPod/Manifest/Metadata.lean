import WorkflowPod.Json.Codec
import WorkflowPod.Time.Instant

/-! Metadata of cluster objects. -/
namespace WorkflowPod.Manifest

open Json

def instant : Codec Time.Instant where
  encode t := .str t.render
  decode? value := value.text?.bind Time.Instant.parse?

/-- The object another object belongs to. -/
structure OwnerReference where
  apiVersion : String
  blockOwnerDeletion : Option Bool := none
  controller : Option Bool := none
  kind : String
  name : String
  uid : String
  deriving DecidableEq, Repr

def OwnerReference.codec : Codec OwnerReference :=
  .object
    (.cons (.orBlank "apiVersion" .text "") <| .cons (.optional "blockOwnerDeletion" .bool) <|
      .cons (.optional "controller" .bool) <| .cons (.orBlank "kind" .text "") <|
      .cons (.orBlank "name" .text "") <| .cons (.orBlank "uid" .text "") .nil)
    (fun r => (r.apiVersion, r.blockOwnerDeletion, r.controller, r.kind, r.name, r.uid, ()))
    (fun (apiVersion, blockOwnerDeletion, controller, kind, name, uid, ()) =>
      { apiVersion, blockOwnerDeletion, controller, kind, name, uid })

/-- What objects of every kind have. `managedFields` and `selfLink` have no field here and are not
kept when metadata is read. -/
structure Metadata where
  annotations : Option (Dict String String) := none
  creationTimestamp : Option Time.Instant := none
  deletionGracePeriodSeconds : Option Int64 := none
  deletionTimestamp : Option Time.Instant := none
  finalizers : Option (List String) := none
  generateName : Option String := none
  generation : Option Int64 := none
  labels : Option (Dict String String) := none
  name : Option String := none
  namespaceName : Option String := none
  ownerReferences : Option (List OwnerReference) := none
  resourceVersion : Option String := none
  uid : Option String := none
  deriving DecidableEq

def Metadata.codec : Codec Metadata :=
  .object
    (.cons (.optional "annotations" Codec.text.dict) <|
      .cons (.optional "creationTimestamp" instant) <|
      .cons (.optional "deletionGracePeriodSeconds" .int64) <|
      .cons (.optional "deletionTimestamp" instant) <|
      .cons (.optional "finalizers" Codec.text.list) <| .cons (.optional "generateName" .text) <|
      .cons (.optional "generation" .int64) <| .cons (.optional "labels" Codec.text.dict) <|
      .cons (.optional "name" .text) <| .cons (.optional "namespace" .text) <|
      .cons (.optional "ownerReferences" OwnerReference.codec.list) <|
      .cons (.optional "resourceVersion" .text) <| .cons (.optional "uid" .text) .nil)
    (fun m => (m.annotations, m.creationTimestamp, m.deletionGracePeriodSeconds,
      m.deletionTimestamp, m.finalizers, m.generateName, m.generation, m.labels, m.name,
      m.namespaceName, m.ownerReferences, m.resourceVersion, m.uid, ()))
    (fun (annotations, creationTimestamp, deletionGracePeriodSeconds, deletionTimestamp,
      finalizers, generateName, generation, labels, name, namespaceName, ownerReferences,
      resourceVersion, uid, ()) =>
        { annotations, creationTimestamp, deletionGracePeriodSeconds, deletionTimestamp,
          finalizers, generateName, generation, labels, name, namespaceName, ownerReferences,
          resourceVersion, uid })

/-- The name an object goes by: its own, or what its name is generated from. -/
def Metadata.anyName (m : Metadata) : String :=
  (m.name.or m.generateName).getD ""

end WorkflowPod.Manifest
