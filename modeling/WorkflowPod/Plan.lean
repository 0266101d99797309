import WorkflowPod.Manifest.Object
import WorkflowPod.Yaml.Printer

/-!
The plan for a workflow: all that its pod is made of, and the text of the pod for its containers.
-/
namespace WorkflowPod

open Manifest

/-- Everything needed to run a workflow as a pod. -/
structure Plan where
  name : String
  namespaceName : Option String
  labels : Dict String String
  owner : Option OwnerReference
  initContainers : List Container
  primary : Container
  monitor : Container
  volumes : List Volume
  serviceAccount : String
  restartPolicy : String
  gracePeriodSeconds : Int64
  securityContext : PodSecurityContext
  pullSecrets : List String
  deriving DecidableEq

namespace Plan

/-- The key of the pod's text in its config map. -/
def configFileKey : String := "flow-k8s-conf.yml"

def configMapName (name : String) : String := name ++ "-config"

def metadata (plan : Plan) (name : String) (labels : Option (Dict String String)) : Metadata :=
  { name := some name
    namespaceName := plan.namespaceName
    labels := labels
    ownerReferences := plan.owner.map fun owner => [owner] }

def pod (plan : Plan) : Pod where
  metadata := plan.metadata plan.name (some plan.labels)
  spec := some
    { containers := [plan.primary, plan.monitor]
      imagePullSecrets :=
        if plan.pullSecrets.isEmpty then none else some (plan.pullSecrets.map LocalReference.mk)
      initContainers := if plan.initContainers.isEmpty then none else some plan.initContainers
      restartPolicy := some plan.restartPolicy
      securityContext := some plan.securityContext
      serviceAccountName := some plan.serviceAccount
      terminationGracePeriodSeconds := some plan.gracePeriodSeconds
      volumes := some plan.volumes }

def config (plan : Plan) : String := Yaml.render (Pod.codec.encode plan.pod)

def configMap (plan : Plan) : ConfigMap where
  data := some (Dict.ofList [(configFileKey, plan.config)])
  metadata := plan.metadata (configMapName plan.name) none

end Plan

end WorkflowPod
