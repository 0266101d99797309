import WorkflowPod.Json.Codec
import WorkflowPod.Json.Reader
import WorkflowPod.Operator.Environment

/-!
Default options for workflows: from the environment, and over it from a stored document. A stored
image counts only if it is not empty; everything else in a readable document counts as it is.
-/
namespace WorkflowPod.Operator

open Json

/-- What fills the blanks of a workflow. -/
structure Defaults where
  gitSyncImage : String := ""
  monitorImage : String := ""
  bucketFetchImage : String := ""
  launcherImage : String := ""
  pullSecrets : List String := []
  /-- The claim of the working volume. -/
  workingClaim : String := ""
  /-- The secret for packages fetched over ssh. -/
  sshSecret : String := ""
  /-- The secret for packages fetched over https. -/
  tokenSecret : String := ""
  deriving DecidableEq, Repr

/-- The options the environment alone gives. -/
def Defaults.ofEnvironment (environment : Environment) : Defaults :=
  { gitSyncImage := environment.gitSyncImage
    monitorImage := environment.monitorImage
    bucketFetchImage := environment.bucketFetchImage
    launcherImage := environment.launcherImage }

structure StoredDefaults where
  launcherImage : String
  sshSecret : String
  tokenSecret : String
  workingClaim : String
  /-- Read for older documents and without effect. -/
  inputDirectory : String
  bucketFetchImage : String
  gitSyncImage : String
  monitorImage : String
  pullSecrets : List String
  deriving DecidableEq, Repr

namespace StoredDefaults

def members :=
  let text (key : String) : Member String := .orBlank key .text ""
  Members.cons (text "image") <| .cons (text "gitsecret") <| .cons (text "gitsecret-oauth") <|
    .cons (text "workingVolume") <| .cons (text "inputdatadir") <|
    .cons (text "s3-fetch-files-image") <| .cons (text "git-sync-image") <|
    .cons (text "workflow-monitoring-image") <|
    .cons (.orBlank "imagePullSecrets" Codec.text.list []) .nil

def codec : Codec StoredDefaults :=
  .record members
    (fun d => (d.launcherImage, d.sshSecret, d.tokenSecret, d.workingClaim, d.inputDirectory,
      d.bucketFetchImage, d.gitSyncImage, d.monitorImage, d.pullSecrets, ()))
    (fun (launcherImage, sshSecret, tokenSecret, workingClaim, inputDirectory, bucketFetchImage,
      gitSyncImage, monitorImage, pullSecrets, ()) =>
        { launcherImage, sshSecret, tokenSecret, workingClaim, inputDirectory, bucketFetchImage,
          gitSyncImage, monitorImage, pullSecrets })

/-- The document a text holds, if it is one in every part. -/
def parse? (document : String) : Option StoredDefaults :=
  (Json.parse? document).bind codec.decode?

end StoredDefaults

def orElse (value other : String) : String := if value.isEmpty then other else value

/-- The options with a stored document over them. -/
def Defaults.withStored (defaults : Defaults) (stored : StoredDefaults) : Defaults :=
  { gitSyncImage := orElse stored.gitSyncImage defaults.gitSyncImage
    monitorImage := orElse stored.monitorImage defaults.monitorImage
    bucketFetchImage := orElse stored.bucketFetchImage defaults.bucketFetchImage
    launcherImage := orElse stored.launcherImage defaults.launcherImage
    pullSecrets := stored.pullSecrets
    workingClaim := stored.workingClaim
    sshSecret := stored.sshSecret
    tokenSecret := stored.tokenSecret }

/-- The default options; a document that cannot be read is as good as none. -/
def Defaults.resolve (environment : Environment) (document : Option String) : Defaults :=
  match document.bind StoredDefaults.parse? with
  | some stored => (ofEnvironment environment).withStored stored
  | none => ofEnvironment environment

end WorkflowPod.Operator
