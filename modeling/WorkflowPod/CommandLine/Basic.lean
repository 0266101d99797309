import WorkflowPod.Cluster.Access
import WorkflowPod.CommandLine.Arguments
import WorkflowPod.Log.Filter
import WorkflowPod.Workflow.Definition
import WorkflowPod.Yaml.Printer

/-!
A run of the program by its arguments and environment variables, where there is no cluster to work
with.
-/
namespace WorkflowPod.CommandLine

open Operator

inductive Output where
  | line (text : String)
  | record (r : Log.Record)
  deriving Repr

/-- What a run writes, and the code it ends with. -/
structure Outcome where
  code : UInt8 := 0
  output : List Output := []
  errors : List String := []
  deriving Repr

namespace Outcome

def ofLines (lines : List String) : Outcome where output := lines.map .line

/-- A run that a fault ends, after some records. -/
def failure (records : List Log.Record) (message : String) : Outcome where
  code := 1
  output := records.map .record
  errors := ["Error: " ++ message]

end Outcome

/-- The record of a numeric setting that falls back. -/
def idFaultRecord (fault : Environment.IdFault) : Log.Record where
  level := .warn
  target := "flowpod_common::config"
  message := "ignoring unparsable id"
  details :=
    [("key", .str fault.variableName), ("value", .str fault.raw),
      ("error", .str fault.fault.message), ("default", .int fault.fallback.toInt)]

def startRecord (env : Environment) : Log.Record where
  level := .info
  target := "flowpod"
  message := "Starting flowpod controller"
  details :=
    [("flow_image", .str env.launcherImage), ("git_sync_image", .str env.gitSyncImage),
      ("config_map", .str env.defaultsName)]

/-- The record of a missing description of the clusters. -/
def missingConfigRecord (vars : Variables) : Log.Record where
  level := .trace
  target := "kube_client::config"
  message := "no local config found, falling back to local in-cluster config"
  details := [("error", .str (Cluster.missingConfigMessage vars))]

/-- Where traces are sent, if they are: a setting for traces comes before the one for all that is
sent, which must be there. -/
def traceEndpoint? (vars : Variables) : Option String := do
  let endpoint ← vars.get? "OTEL_EXPORTER_OTLP_ENDPOINT"
  return (vars.get? "OTEL_EXPORTER_OTLP_TRACES_ENDPOINT").getD endpoint

/-- What is wrong with where traces are sent. -/
def traceFault? (vars : Variables) : Option Url.EndpointFault :=
  match (traceEndpoint? vars).map Url.Endpoint.check with
  | some (.error fault) => some fault
  | _ => none

/-- The records of a controller up to its end, in order. -/
def controllerRecords (vars : Variables) : List Log.Record :=
  (Environment.idFaults vars).map idFaultRecord ++
    [startRecord (.ofVariables vars), missingConfigRecord vars]

def runController (vars : Variables) : Outcome :=
  match traceFault? vars with
  | some fault =>
    .failure [] ("failed to initialize tracer: Exporter otlp encountered the following error(s): "
      ++ "invalid URI " ++ fault.message)
  | none =>
    let filter := Log.Filter.ofText? (vars.get? "RUST_LOG")
    .failure ((controllerRecords vars).filter filter.enables)
      ("Failed to create Kubernetes client: Failed to infer configuration: " ++
        Cluster.unreachableMessage vars)

/-- The lines of the definition of workflows, and an empty one. -/
def definitionLines : List String := (Yaml.render Workflow.definition).splitOn "\n"

/-- The environment variables a run depends on. -/
def variableNames : List String :=
  ["GIT_SYNC_IMAGE", "WORKFLOW_MONITORING_IMAGE", "S3_FETCH_FILES_IMAGE", "FLOW_IMAGE", "USER_ID",
    "GROUP_ID", "FSGROUP", "SERVICE_ACCOUNT_NAME", "CONFIGMAP_NAME", "RUST_LOG",
    "OTEL_EXPORTER_OTLP_ENDPOINT", "OTEL_EXPORTER_OTLP_TRACES_ENDPOINT", "KUBERNETES_SERVICE_HOST",
    "KUBERNETES_SERVICE_PORT", "KUBECONFIG", "HOME"]

def run (args : List String) (vars : Variables) : Outcome :=
  match readArguments false args with
  | .error complaint => { code := 2, errors := complaint.lines }
  | .ok (.help topic) => .ofLines topic.lines
  | .ok .version => .ofLines [version]
  | .ok .definition => .ofLines definitionLines
  | .ok .controller => runController vars

end WorkflowPod.CommandLine
