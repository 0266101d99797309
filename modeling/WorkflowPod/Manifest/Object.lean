import WorkflowPod.Manifest.Container
import WorkflowPod.Manifest.Metadata

/-! The objects a workflow is run with: a pod and a config map. -/
namespace WorkflowPod.Manifest

open Json

structure ObjectType where
  apiVersion : String
  kind : String
  deriving DecidableEq, Repr

/-- A codec with the type of the object in front. Read objects may leave it out but not name
another. -/
def ObjectType.tag {α : Type} (t : ObjectType) (c : Codec α) : Codec α where
  encode value := .obj (("apiVersion", .str t.apiVersion) :: ("kind", .str t.kind) ::
    ((c.encode value).members?).getD [])
  decode? value := do
    let members ← value.members?
    guard (members.all fun (key, value) =>
      (key != "apiVersion" || value.text? == some t.apiVersion) &&
        (key != "kind" || value.text? == some t.kind))
    c.decode? value

/-- The users and groups of a pod. -/
structure PodSecurityContext where
  fsGroup : Option Int64 := none
  runAsGroup : Option Int64 := none
  runAsUser : Option Int64 := none
  deriving DecidableEq, Repr

def PodSecurityContext.codec : Codec PodSecurityContext :=
  .object
    (.cons (.optional "fsGroup" .int64) <| .cons (.optional "runAsGroup" .int64) <|
      .cons (.optional "runAsUser" .int64) .nil)
    (fun c => (c.fsGroup, c.runAsGroup, c.runAsUser, ()))
    (fun (fsGroup, runAsGroup, runAsUser, ()) => { fsGroup, runAsGroup, runAsUser })

/-- The name of an object in the same namespace. -/
structure LocalReference where
  name : String
  deriving DecidableEq, Repr

def LocalReference.codec : Codec LocalReference :=
  .object (.cons (.orBlank "name" .text "") .nil)
    (fun r => (r.name, ()))
    (fun (name, ()) => { name })

/-- What a pod is to be, with the fields that plans set. -/
structure PodSpec where
  containers : List Container
  imagePullSecrets : Option (List LocalReference) := none
  initContainers : Option (List Container) := none
  restartPolicy : Option String := none
  securityContext : Option PodSecurityContext := none
  serviceAccountName : Option String := none
  terminationGracePeriodSeconds : Option Int64 := none
  volumes : Option (List Volume) := none
  deriving DecidableEq

def PodSpec.codec : Codec PodSpec :=
  .object
    (.cons (.orBlank "containers" Container.codec.list []) <|
      .cons (.optional "imagePullSecrets" LocalReference.codec.list) <|
      .cons (.optional "initContainers" Container.codec.list) <|
      .cons (.optional "restartPolicy" .text) <|
      .cons (.optional "securityContext" PodSecurityContext.codec) <|
      .cons (.optional "serviceAccountName" .text) <|
      .cons (.optional "terminationGracePeriodSeconds" .int64) <|
      .cons (.optional "volumes" Volume.codec.list) .nil)
    (fun s => (s.containers, s.imagePullSecrets, s.initContainers, s.restartPolicy,
      s.securityContext, s.serviceAccountName, s.terminationGracePeriodSeconds, s.volumes, ()))
    (fun (containers, imagePullSecrets, initContainers, restartPolicy, securityContext,
      serviceAccountName, terminationGracePeriodSeconds, volumes, ()) =>
        { containers, imagePullSecrets, initContainers, restartPolicy, securityContext,
          serviceAccountName, terminationGracePeriodSeconds, volumes })

structure Pod where
  metadata : Metadata
  spec : Option PodSpec := none
  deriving DecidableEq

def Pod.codec : Codec Pod :=
  ObjectType.tag ⟨"v1", "Pod"⟩ <| .object
    (.cons (.orBlank "metadata" Metadata.codec {}) <|
      .cons (.optional "spec" PodSpec.codec) .nil)
    (fun p => (p.metadata, p.spec, ()))
    (fun (metadata, spec, ()) => { metadata, spec })

structure ConfigMap where
  data : Option (Dict String String) := none
  metadata : Metadata
  deriving DecidableEq

def ConfigMap.codec : Codec ConfigMap :=
  ObjectType.tag ⟨"v1", "ConfigMap"⟩ <| .object
    (.cons (.optional "data" Codec.text.dict) <|
      .cons (.orBlank "metadata" Metadata.codec {}) .nil)
    (fun m => (m.data, m.metadata, ()))
    (fun (data, metadata, ()) => { data, metadata })

end WorkflowPod.Manifest
