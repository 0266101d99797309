import WorkflowPod.Compile.Containers
import WorkflowPod.Workflow.Basic

/-! Compiling a workflow to the plan of its pod. -/
namespace WorkflowPod.Compile

open Manifest Workflow Package

/-- The spec after the passes before compilation, in their order. -/
def normalized (spec : Spec) (defaults : Operator.Defaults) (kind : SourceKind) : Spec :=
  ((spec.withDefaults defaults kind).withoutInputVolume).withAbsolutePaths

/-- The containers that run before the others, in their order. -/
def initContainers (spec : Spec) (source : Source) (package : Workflow.Package)
    (secret : Option String) (defaults : Operator.Defaults) (environment : Operator.Environment) :
    Except SpecFault (List Container) := do
  let packageFetch :=
    if source.needsFetch then
      [packageFetchContainer spec source package secret defaults environment]
    else []
  match spec.bucketInput with
  | none => return packageFetch
  | some bucket => return packageFetch ++ [← bucketFetchContainer spec bucket environment]

/-- The labels of the pod: its workflow's, which may replace the two it has of its own. -/
def labels (workflow : Workflow) : Dict String String :=
  (Dict.ofList [("workflow", workflow.name), ("rest-uid", workflow.metadata.uid.getD "")]).extend
    (workflow.metadata.labels.getD {})

def securityContext (environment : Operator.Environment) : PodSecurityContext :=
  { fsGroup := some environment.fsGroup
    runAsUser := some environment.userId
    runAsGroup := some environment.groupId }

def planOf (workflow : Workflow) (spec : Spec) (source : Source) (defaults : Operator.Defaults)
    (environment : Operator.Environment) : Except SpecFault Plan := do
  let some working := spec.workingVolume
    | throw (.incomplete "spec.workingVolume is not set")
  let package := spec.package.getD {}
  let secret := given package.gitSecret
  let initContainers ← initContainers spec source package secret defaults environment
  return {
    name := workflow.name
    namespaceName := workflow.metadata.namespaceName
    labels := labels workflow
    owner := workflow.ownerReference?
    initContainers
    primary := launcherContainer spec source package working
    monitor := monitorContainer spec working defaults
    volumes := volumes workflow.name spec source working secret
    serviceAccount := environment.serviceAccount
    restartPolicy := "Never"
    gracePeriodSeconds := 600
    securityContext := securityContext environment
    pullSecrets := spec.imagePullSecrets }

end WorkflowPod.Compile

namespace WorkflowPod

def compile (workflow : Workflow) (defaults : Operator.Defaults)
    (environment : Operator.Environment) : Except SpecFault Plan := do
  let source ← Package.Source.classify workflow.spec
  Compile.planOf workflow (Compile.normalized workflow.spec defaults source.kind) source defaults
    environment

end WorkflowPod
