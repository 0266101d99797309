import WorkflowPod.Manifest.Variable
import WorkflowPod.Manifest.Volume

/-! Containers of a pod. -/
namespace WorkflowPod.Manifest

open Json

/-- What a container may use at most, and what is set aside for it, by resource. -/
structure Requirements where
  limits : Option (Dict String String) := none
  requests : Option (Dict String String) := none
  deriving DecidableEq

def Requirements.codec : Codec Requirements :=
  .object
    (.cons (.optional "limits" Codec.text.dict) <|
      .cons (.optional "requests" Codec.text.dict) .nil)
    (fun r => (r.limits, r.requests, ()))
    (fun (limits, requests, ()) => { limits, requests })

/-- A command run in a container. -/
structure ExecAction where
  command : Option (List String) := none
  deriving DecidableEq, Repr

def ExecAction.codec : Codec ExecAction :=
  .object (.cons (.optional "command" Codec.text.list) .nil)
    (fun a => (a.command, ()))
    (fun (command, ()) => { command })

/-- What is done at a point of a container's life. -/
structure LifecycleHandler where
  exec : Option ExecAction := none
  deriving DecidableEq, Repr

def LifecycleHandler.codec : Codec LifecycleHandler :=
  .object (.cons (.optional "exec" ExecAction.codec) .nil)
    (fun h => (h.exec, ()))
    (fun (exec, ()) => { exec })

/-- The points of a container's life where something is done. -/
structure Lifecycle where
  preStop : Option LifecycleHandler := none
  deriving DecidableEq, Repr

def Lifecycle.codec : Codec Lifecycle :=
  .object (.cons (.optional "preStop" LifecycleHandler.codec) .nil)
    (fun l => (l.preStop, ()))
    (fun (preStop, ()) => { preStop })

/-- The user and the group a container runs as. -/
structure SecurityContext where
  runAsGroup : Option Int64 := none
  runAsUser : Option Int64 := none
  deriving DecidableEq, Repr

def SecurityContext.codec : Codec SecurityContext :=
  .object
    (.cons (.optional "runAsGroup" .int64) <| .cons (.optional "runAsUser" .int64) .nil)
    (fun c => (c.runAsGroup, c.runAsUser, ()))
    (fun (runAsGroup, runAsUser, ()) => { runAsGroup, runAsUser })

/-- A container with the fields that plans set. -/
structure Container where
  args : Option (List String) := none
  command : Option (List String) := none
  env : Option (List Variable) := none
  image : Option String := none
  imagePullPolicy : Option String := none
  lifecycle : Option Lifecycle := none
  name : String
  resources : Option Requirements := none
  securityContext : Option SecurityContext := none
  volumeMounts : Option (List VolumeMount) := none
  workingDir : Option String := none
  deriving DecidableEq

def Container.codec : Codec Container :=
  .object
    (.cons (.optional "args" Codec.text.list) <| .cons (.optional "command" Codec.text.list) <|
      .cons (.optional "env" Variable.codec.list) <| .cons (.optional "image" .text) <|
      .cons (.optional "imagePullPolicy" .text) <|
      .cons (.optional "lifecycle" Lifecycle.codec) <| .cons (.orBlank "name" .text "") <|
      .cons (.optional "resources" Requirements.codec) <|
      .cons (.optional "securityContext" SecurityContext.codec) <|
      .cons (.optional "volumeMounts" VolumeMount.codec.list) <|
      .cons (.optional "workingDir" .text) .nil)
    (fun c => (c.args, c.command, c.env, c.image, c.imagePullPolicy, c.lifecycle, c.name,
      c.resources, c.securityContext, c.volumeMounts, c.workingDir, ()))
    (fun (args, command, env, image, imagePullPolicy, lifecycle, name, resources,
      securityContext, volumeMounts, workingDir, ()) =>
        { args, command, env, image, imagePullPolicy, lifecycle, name, resources,
          securityContext, volumeMounts, workingDir })

end WorkflowPod.Manifest
