import WorkflowPod.Json.Basic
import WorkflowPod.Dict

/-!
The definition of workflows as a resource of a cluster: their names, and a schema of what is in
them. Types of the cluster itself are left open in it.
-/
namespace WorkflowPod.Workflow

abbrev Schema := Dict String Json

namespace Schema

def encode (s : Schema) : Json := .obj s.entries

def ofType (type : String) : Schema := Dict.ofList [("type", .str type)]

def text : Schema := ofType "string"

def list (items : Schema) : Schema := (ofType "array").insert "items" items.encode

def map (values : Schema) : Schema :=
  (ofType "object").insert "additionalProperties" values.encode

def record (members : List (String × Schema)) : Schema :=
  let properties : Dict String Json := Dict.ofList (members.map fun m => (m.1, m.2.encode))
  (ofType "object").insert "properties" (.obj properties.entries)

/-- Values of a type of the cluster, with the members they must have. -/
def clusterType (required : List String) : Schema :=
  let unchecked := (ofType "object").insert "x-kubernetes-preserve-unknown-fields" (.bool true)
  if required.isEmpty then unchecked else unchecked.insert "required" (.texts required)

def about (s : Schema) (words : String) : Schema := s.insert "description" (.str words)

def orNull (s : Schema) : Schema := s.insert "nullable" (.bool true)

def orElse (s : Schema) (value : Json) : Schema := s.insert "default" value

def optionalText (words : String) : Schema := (text.about words).orNull

def texts (words : String) : Schema := (list text).about words

end Schema

open Schema

def packageSchema : Schema := record [
  ("url", optionalText "Git remote, `https://...` or `git@...`"),
  ("branch", optionalText "Branch to check out"),
  ("commitId", optionalText "Commit to check out; used when no branch is set"),
  ("mount", optionalText
    "Where the package is mounted in the primary container (default `/mnt/package`)"),
  ("gitsecret", optionalText "Secret with git credentials (SSH key or OAuth token)"),
  ("fromConfigMap", optionalText "ConfigMap holding an inline package definition"),
  ("fromPath", optionalText "Package path, absolute or relative to the fetched package"),
  ("withManifest", optionalText "Manifest file, absolute or relative to the package")]

def amountsSchema : Schema := record [
  ("cpu", optionalText "CPU quantity, e.g. `500m`"),
  ("memory", optionalText "Memory quantity, e.g. `1Gi`")]

def overridesSchema : Schema := record [
  ("elaunchPrimary", (amountsSchema.about "Primary launcher container").orNull),
  ("monitor", (amountsSchema.about "Monitor sidecar").orNull),
  ("gitFetch", (amountsSchema.about "Package-fetch and bucket-fetch init containers").orNull)]

def credentialSchema (words : String) : Schema :=
  ((record [
    ("value", optionalText "Literal value; `$(VAR)` references are expanded by the kubelet"),
    ("valueFrom", ((clusterType []).about "Source for the value").orNull)]).about words).orElse
      (.obj [])

def bucketSchema : Schema := record [
  ("dataset", optionalText
    "Secret holding `accessKeyID`, `secretAccessKey`, `endpoint`, `bucket` and `region`"),
  ("accessKeyID", credentialSchema "Access key id"),
  ("secretAccessKey", credentialSchema "Secret access key"),
  ("endpoint", credentialSchema "Endpoint URL"),
  ("bucket", credentialSchema "Bucket name"),
  ("region", credentialSchema "Region")]

def volumeSchema : Schema := clusterType ["name"]

def specSchema : Schema := (record [
  ("image", optionalText "Launcher image; blank uses the operator default"),
  ("imagePullSecrets", texts "Secrets used as imagePullSecrets by the workflow pod"),
  ("package", (packageSchema.about "Package to run; mutually exclusive with `instance`").orNull),
  ("instance", optionalText ("Existing instance directory under the working volume; " ++
    "mutually exclusive with `package`")),
  ("debug", ((ofType "boolean").about
    "Print the launcher command line instead of running it").orElse (.bool false)),
  ("command", optionalText "Launcher executable; blank uses `elaunch.py`"),
  ("volumes", (list volumeSchema).about "Volumes for the workflow pod"),
  ("volumeMounts", (list (clusterType ["mountPath", "name"])).about
    "Mounts for the primary container"),
  ("workingVolume", (volumeSchema.about
    "Volume hosting the instance directory; blank uses the default claim").orNull),
  ("inputDataVolume", (volumeSchema.about
    "Deprecated: volume mounted at `/tmp/inputdir`, migrated into `volumes`").orNull),
  ("inputs", texts "Input files, `path[:rename]`"),
  ("variables", texts "Variable files, `path[:rename]`"),
  ("data", texts "Data files, `path[:rename]`; must already exist in the package"),
  ("additionalOptions", texts "Extra launcher arguments, passed verbatim"),
  ("resources", (overridesSchema.about "Resource overrides for the pod's containers").orNull),
  ("env", (list (clusterType ["name"])).about
    "Environment variables for the primary and monitor containers"),
  ("s3BucketInput", (bucketSchema.about "Fetch inputs and data from an S3 bucket").orNull),
  ("s3FetchFilesImage", optionalText "Bucket-fetch image; blank uses the operator default")]).about
    "A single workflow run"

def statusSchema : Schema := ((record [
  ("cost", optionalText "Accumulated cost"),
  ("currentstage", optionalText "Stage currently executing"),
  ("exitstatus", optionalText "Exit status of the run"),
  ("experimentstate", optionalText "Overall state of the run"),
  ("stageprogress", optionalText "Progress of the current stage"),
  ("stagestate", optionalText "State of the current stage"),
  ("errordescription", optionalText "Error description, when failed"),
  ("stages", texts "Stage names"),
  ("totalprogress", optionalText "Overall progress"),
  ("updated", optionalText "Last time the monitor updated the status"),
  ("outputfiles", (map (map text)).about "Output files by component"),
  ("meta", optionalText "Free-form metadata")]).about
    "Progress of a Workflow, written by the monitor sidecar").orNull

def workflowSchema : Schema :=
  (((record [("spec", specSchema), ("status", statusSchema)]).about
    "Auto-generated derived type for WorkflowSpec via `CustomResource`").insert
      "required" (.texts ["spec"])).insert "title" (.str "Workflow")

def column (name type path : String) : Json :=
  .obj [("jsonPath", .str path), ("name", .str name), ("type", .str type)]

def definitionVersion : Json := .obj [
  ("additionalPrinterColumns", .arr [
    column "Age" "date" ".metadata.creationTimestamp",
    column "Status" "string" ".status.experimentstate"]),
  ("name", .str "v1alpha1"),
  ("schema", .obj [("openAPIV3Schema", workflowSchema.encode)]),
  ("served", .bool true),
  ("storage", .bool true),
  ("subresources", .obj [("status", .obj [])])]

def definition : Json := .obj [
  ("apiVersion", .str "apiextensions.k8s.io/v1"),
  ("kind", .str "CustomResourceDefinition"),
  ("metadata", .obj [("name", .str "workflows.flowpod.dev")]),
  ("spec", .obj [
    ("group", .str "flowpod.dev"),
    ("names", .obj [
      ("categories", .arr []),
      ("kind", .str "Workflow"),
      ("plural", .str "workflows"),
      ("shortNames", .texts ["wf"]),
      ("singular", .str "workflow")]),
    ("scope", .str "Namespaced"),
    ("versions", .arr [definitionVersion])])]

end WorkflowPod.Workflow
