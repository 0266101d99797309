import WorkflowPod.Dict
import WorkflowPod.Text.Blank
import WorkflowPod.Text.Integer

/-! What the operator takes from its environment variables. -/
namespace WorkflowPod.Operator

abbrev Variables := Dict String String

/-- The operator's settings. Images may be empty. -/
structure Environment where
  gitSyncImage : String := ""
  monitorImage : String := ""
  bucketFetchImage : String := ""
  launcherImage : String := ""
  userId : Int64 := 0
  groupId : Int64 := 0
  fsGroup : Int64 := 5000
  serviceAccount : String := "workflow-operator"
  /-- The config map with the stored default options. -/
  defaultsName : String := "workflow-runtime-service"
  deriving DecidableEq, Repr

namespace Environment

/-- A numeric setting whose variable is set to something else than a number. -/
structure IdFault where
  variableName : String
  raw : String
  fault : Text.IntegerFault
  fallback : Int64
  deriving DecidableEq, Repr

/-- The integer in a text, blanks around it apart. -/
def readId (raw : String) : Except Text.IntegerFault Int64 :=
  (Text.readInt64 (Text.trim raw.toList)).map Int64.ofInt

/-- A numeric setting: the integer its variable holds, or else `fallback`. -/
def id (lookup : String → Option String) (name : String) (fallback : Int64) : Int64 :=
  match lookup name with
  | none => fallback
  | some raw =>
    match readId raw with
    | .ok n => n
    | .error _ => fallback

/-- What is wrong with a numeric setting. -/
def idFault? (vars : Variables) (name : String) (fallback : Int64) : Option IdFault :=
  match vars.get? name with
  | none => none
  | some raw =>
    match readId raw with
    | .ok _ => none
    | .error fault => some ⟨name, raw, fault, fallback⟩

/-- The settings by what is found for each variable. An empty name for the defaults counts as none,
an empty service account does not. -/
def ofLookup (lookup : String → Option String) : Environment :=
  let standard : Environment := {}
  let image (name : String) := (lookup name).getD ""
  { gitSyncImage := image "GIT_SYNC_IMAGE"
    monitorImage := image "WORKFLOW_MONITORING_IMAGE"
    bucketFetchImage := image "S3_FETCH_FILES_IMAGE"
    launcherImage := image "FLOW_IMAGE"
    userId := id lookup "USER_ID" standard.userId
    groupId := id lookup "GROUP_ID" standard.groupId
    fsGroup := id lookup "FSGROUP" standard.fsGroup
    serviceAccount := (lookup "SERVICE_ACCOUNT_NAME").getD standard.serviceAccount
    defaultsName := ((lookup "CONFIGMAP_NAME").filter (· ≠ "")).getD standard.defaultsName }

def ofVariables (vars : Variables) : Environment := ofLookup vars.get?

/-- The numeric settings that fall back because their variables hold no integer, in the order they
are read. -/
def idFaults (vars : Variables) : List IdFault :=
  let standard : Environment := {}
  [("USER_ID", standard.userId), ("GROUP_ID", standard.groupId),
    ("FSGROUP", standard.fsGroup)].filterMap fun (name, fallback) =>
      idFault? vars name fallback

end Environment

end WorkflowPod.Operator
