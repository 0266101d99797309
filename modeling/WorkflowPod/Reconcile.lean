import WorkflowPod.Cluster.Session
import WorkflowPod.Compile.Basic

/-!
Reconciling a workflow with a cluster: its config map and its pod are created if they are not there.
A workflow that is being deleted or that its monitor has reported on is left alone.
-/
namespace WorkflowPod

open Cluster Manifest

/-- Why a workflow could not be reconciled. -/
inductive ReconcileFault where
  /-- The workflow has no namespace. -/
  | missingNamespace
  /-- The workflow cannot be compiled. -/
  | spec (fault : SpecFault)
  /-- The cluster did not do what it was asked. -/
  | cluster (fault : Cluster.Fault)
  deriving DecidableEq, Repr

namespace ReconcileFault

/-- Whether trying again without a change to the workflow may succeed. -/
def isRetryable : ReconcileFault → Bool
  | cluster _ => true
  | missingNamespace | spec _ => false

/-- The words for a fault, if it has fixed ones. -/
def message? : ReconcileFault → Option String
  | missingNamespace => some "missing namespace on Workflow"
  | spec fault => some fault.message
  | cluster (.refused _ message) => some message
  | cluster .unreadable => none

end ReconcileFault

namespace Reconcile

/-- When a workflow is looked at again. -/
inductive Action where
  /-- When it changes. -/
  | awaitChange
  /-- After some seconds. -/
  | requeue (seconds : Nat)
  deriving DecidableEq, Repr

/-- What is done about a fault: if it may pass, another try after half a minute. -/
def actionAfter (fault : ReconcileFault) : Action :=
  if fault.isRetryable then .requeue 30 else .awaitChange

abbrev Outcome := Except ReconcileFault Action

/-- What a reconcile knows besides its workflow. -/
structure Setting where
  environment : Operator.Environment
  reporter : Reporter
  deriving DecidableEq, Repr

def controllerName : String := "flowpod-workflow-controller"

/-- The name under which the controller changes objects. -/
def fieldManager : String := "flowpod-operator"

/-- The setting environment variables give. A process without a name goes by the controller's. -/
def Setting.ofVariables (vars : Operator.Variables) : Setting where
  environment := .ofVariables vars
  reporter := ⟨controllerName, (vars.get? "POD_NAME").getD controllerName⟩

def documentKey : String := "config.json"

/-- The document in an answer; an answer that is none of a config map has none. -/
def storedDocument (reply : Reply) : Option String :=
  match reply.result ConfigMap.codec with
  | .ok configMap => configMap.data.bind (·.get? documentKey)
  | .error _ => none

/-- The event about a workflow that cannot be compiled. -/
def compilationFailed (setting : Setting) (workflow : Workflow) (fault : SpecFault) : Event where
  severity := .warning
  reason := "CompilationFailed"
  action := "Compile"
  note := fault.message
  regarding := .ofWorkflow workflow
  reporter := setting.reporter

def podCreated (setting : Setting) (workflow : Workflow) (space name : String) : Event where
  severity := .normal
  reason := "PodCreated"
  action := "Create"
  note := "created pod " ++ name ++ " in namespace " ++ space
  regarding := .ofWorkflow workflow
  reporter := setting.reporter

/-- Publishes an event and is over, whatever the answer. -/
def announce (event : Event) (outcome : Outcome) : Session Outcome :=
  .ask (.publish event) fun _ => .done outcome

def createPod (setting : Setting) (workflow : Workflow) (space : String) (plan : Plan) :
    Session Outcome :=
  .ask (.create .pods ⟨space, plan.name⟩ (Pod.codec.encode plan.pod)) fun reply =>
    match reply.created Pod.codec with
    | .error fault => .done (.error (.cluster fault))
    | .ok false => .done (.ok .awaitChange)
    | .ok true => announce (podCreated setting workflow space plan.name) (.ok .awaitChange)

/-- Creates the config map of a plan and, unless that fails, its pod. -/
def createObjects (setting : Setting) (workflow : Workflow) (space : String) (plan : Plan) :
    Session Outcome :=
  .ask (.create .configMaps ⟨space, Plan.configMapName plan.name⟩
      (ConfigMap.codec.encode plan.configMap)) fun reply =>
    match reply.created ConfigMap.codec with
    | .error fault => .done (.error (.cluster fault))
    | .ok _ => createPod setting workflow space plan

/-- Compiles a workflow with the stored defaults in an answer and creates its objects. -/
def compileAndCreate (setting : Setting) (workflow : Workflow) (space : String) (reply : Reply) :
    Session Outcome :=
  let defaults := Operator.Defaults.resolve setting.environment (storedDocument reply)
  match compile workflow defaults setting.environment with
  | .error fault => announce (compilationFailed setting workflow fault) (.error (.spec fault))
  | .ok plan => createObjects setting workflow space plan

/-- Whether nothing is to be done for a workflow. -/
def isSettled (workflow : Workflow) : Bool :=
  workflow.metadata.deletionTimestamp.isSome || workflow.hasRun

end Reconcile

def reconcile (setting : Reconcile.Setting) (workflow : Workflow) :
    Session Reconcile.Outcome :=
  match workflow.metadata.namespaceName with
  | none => .done (.error .missingNamespace)
  | some space =>
    if Reconcile.isSettled workflow then .done (.ok .awaitChange)
    else
      .ask (.read ⟨space, setting.environment.defaultsName⟩)
        (Reconcile.compileAndCreate setting workflow space)

end WorkflowPod
