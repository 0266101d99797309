import WorkflowPod.Json.Codec

/-! Volumes of a pod and where its containers mount them. -/
namespace WorkflowPod.Manifest

open Json

/-- A key of a config map or secret and the file it becomes. -/
structure KeyToPath where
  key : String
  mode : Option Int32 := none
  path : String
  deriving DecidableEq, Repr

def KeyToPath.codec : Codec KeyToPath :=
  .object
    (.cons (.orBlank "key" .text "") <| .cons (.optional "mode" .int32) <|
      .cons (.orBlank "path" .text "") .nil)
    (fun k => (k.key, k.mode, k.path, ()))
    (fun (key, mode, path, ()) => { key, mode, path })

structure ConfigMapSource where
  defaultMode : Option Int32 := none
  items : Option (List KeyToPath) := none
  name : String
  optional : Option Bool := none
  deriving DecidableEq, Repr

def ConfigMapSource.codec : Codec ConfigMapSource :=
  .object
    (.cons (.optional "defaultMode" .int32) <| .cons (.optional "items" KeyToPath.codec.list) <|
      .cons (.orBlank "name" .text "") <| .cons (.optional "optional" .bool) .nil)
    (fun s => (s.defaultMode, s.items, s.name, s.optional, ()))
    (fun (defaultMode, items, name, optional, ()) => { defaultMode, items, name, optional })

/-- A directory that starts empty and ends with the pod. -/
structure EmptyDirSource where
  medium : Option String := none
  sizeLimit : Option String := none
  deriving DecidableEq, Repr

def EmptyDirSource.codec : Codec EmptyDirSource :=
  .object
    (.cons (.optional "medium" .text) <| .cons (.optional "sizeLimit" .text) .nil)
    (fun s => (s.medium, s.sizeLimit, ()))
    (fun (medium, sizeLimit, ()) => { medium, sizeLimit })

/-- A directory of the node. -/
structure HostPathSource where
  path : String
  type : Option String := none
  deriving DecidableEq, Repr

def HostPathSource.codec : Codec HostPathSource :=
  .object
    (.cons (.orBlank "path" .text "") <| .cons (.optional "type" .text) .nil)
    (fun s => (s.path, s.type, ()))
    (fun (path, type, ()) => { path, type })

/-- A directory of a file server. -/
structure NfsSource where
  path : String
  readOnly : Option Bool := none
  server : String
  deriving DecidableEq, Repr

def NfsSource.codec : Codec NfsSource :=
  .object
    (.cons (.orBlank "path" .text "") <| .cons (.optional "readOnly" .bool) <|
      .cons (.orBlank "server" .text "") .nil)
    (fun s => (s.path, s.readOnly, s.server, ()))
    (fun (path, readOnly, server, ()) => { path, readOnly, server })

structure ClaimSource where
  claimName : String
  readOnly : Option Bool := none
  deriving DecidableEq, Repr

def ClaimSource.codec : Codec ClaimSource :=
  .object
    (.cons (.orBlank "claimName" .text "") <| .cons (.optional "readOnly" .bool) .nil)
    (fun s => (s.claimName, s.readOnly, ()))
    (fun (claimName, readOnly, ()) => { claimName, readOnly })

structure SecretSource where
  defaultMode : Option Int32 := none
  items : Option (List KeyToPath) := none
  optional : Option Bool := none
  secretName : Option String := none
  deriving DecidableEq, Repr

def SecretSource.codec : Codec SecretSource :=
  .object
    (.cons (.optional "defaultMode" .int32) <| .cons (.optional "items" KeyToPath.codec.list) <|
      .cons (.optional "optional" .bool) <| .cons (.optional "secretName" .text) .nil)
    (fun s => (s.defaultMode, s.items, s.optional, s.secretName, ()))
    (fun (defaultMode, items, optional, secretName, ()) =>
      { defaultMode, items, optional, secretName })

/-- A volume by its name. Nothing keeps it from having several sources. A source of a kind with no
field here, such as `csi` or `projected`, is not kept when a volume is read. -/
structure Volume where
  configMap : Option ConfigMapSource := none
  emptyDir : Option EmptyDirSource := none
  hostPath : Option HostPathSource := none
  name : String
  nfs : Option NfsSource := none
  persistentVolumeClaim : Option ClaimSource := none
  secret : Option SecretSource := none
  deriving DecidableEq, Repr

namespace Volume

def codec : Codec Volume :=
  .object
    (.cons (.optional "configMap" ConfigMapSource.codec) <|
      .cons (.optional "emptyDir" EmptyDirSource.codec) <|
      .cons (.optional "hostPath" HostPathSource.codec) <| .cons (.orBlank "name" .text "") <|
      .cons (.optional "nfs" NfsSource.codec) <|
      .cons (.optional "persistentVolumeClaim" ClaimSource.codec) <|
      .cons (.optional "secret" SecretSource.codec) .nil)
    (fun v => (v.configMap, v.emptyDir, v.hostPath, v.name, v.nfs, v.persistentVolumeClaim,
      v.secret, ()))
    (fun (configMap, emptyDir, hostPath, name, nfs, persistentVolumeClaim, secret, ()) =>
      { configMap, emptyDir, hostPath, name, nfs, persistentVolumeClaim, secret })

def ofEmptyDir (name : String) : Volume := { name, emptyDir := some {} }

def ofConfigMap (name configMap : String) : Volume :=
  { name, configMap := some { name := configMap } }

def ofSecret (name secret : String) (mode : Int32) : Volume :=
  { name, secret := some { secretName := some secret, defaultMode := some mode } }

/-- The claim `claim` under `name`, for reading and writing. -/
def ofClaim (name claim : String) : Volume :=
  { name, persistentVolumeClaim := some { claimName := claim, readOnly := some false } }

end Volume

structure VolumeMount where
  mountPath : String
  mountPropagation : Option String := none
  name : String
  readOnly : Option Bool := none
  recursiveReadOnly : Option String := none
  subPath : Option String := none
  subPathExpr : Option String := none
  deriving DecidableEq, Repr

namespace VolumeMount

def codec : Codec VolumeMount :=
  .object
    (.cons (.orBlank "mountPath" .text "") <| .cons (.optional "mountPropagation" .text) <|
      .cons (.orBlank "name" .text "") <| .cons (.optional "readOnly" .bool) <|
      .cons (.optional "recursiveReadOnly" .text) <| .cons (.optional "subPath" .text) <|
      .cons (.optional "subPathExpr" .text) .nil)
    (fun m => (m.mountPath, m.mountPropagation, m.name, m.readOnly, m.recursiveReadOnly,
      m.subPath, m.subPathExpr, ()))
    (fun (mountPath, mountPropagation, name, readOnly, recursiveReadOnly, subPath, subPathExpr,
      ()) =>
        { mountPath, mountPropagation, name, readOnly, recursiveReadOnly, subPath, subPathExpr })

def ofVolume (name path : String) : VolumeMount := { name, mountPath := path }

def ofFile (name file path : String) : VolumeMount :=
  { name, mountPath := path, subPath := some file }

end VolumeMount

end WorkflowPod.Manifest
