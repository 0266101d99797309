import WorkflowPod.Operator.Defaults
import WorkflowPod.Package.Source
import WorkflowPod.Path.Lexical

/-!
Three passes over a spec before it is compiled: defaults for what is blank, the older input volume
as an ordinary one, and absolute paths for every file.
-/
namespace WorkflowPod.Workflow

open Manifest

/-- The directory of files delivered through a volume. -/
def inputRoot : String := "/tmp/inputdir"

/-- The directory files are fetched into from a bucket. -/
def bucketRoot : String := "/tmp/s3-root-dir"

/-- The directory of input files from a bucket. -/
def bucketInputRoot : String := bucketRoot ++ "/input"

def bucketDataRoot : String := bucketRoot ++ "/data"

def workingVolumeName : String := "working-volume"

/-- The value if it is given, else the default. -/
def orDefault (value : Option String) (default : String) : Option String :=
  some ((given value).getD default)

/-- The secret for the packages of a kind, unless the workflow names one. -/
def defaultSecret (defaults : Operator.Defaults) : Package.SourceKind → String
  | .ssh => defaults.sshSecret
  | .https => defaults.tokenSecret
  | .configMap | .volumePath | .earlierRun => ""

/-- The package with the default secret if it has none and there is one. -/
def Package.withSecret (package : Package) (secret : String) : Package :=
  if (given package.gitSecret).isNone ∧ ¬secret.isEmpty then
    { package with gitSecret := some secret }
  else package

/-- The working volume unless the workflow has one: the default claim, or an empty directory. -/
def defaultWorkingVolume (defaults : Operator.Defaults) : Volume :=
  if defaults.workingClaim.isEmpty then .ofEmptyDir workingVolumeName
  else .ofClaim workingVolumeName defaults.workingClaim

/-- A volume, unless its name is empty. -/
def named (volume : Option Volume) : Option Volume := volume.filter (·.name ≠ "")

namespace Spec

/-- The blanks filled from the defaults for a package of the kind `kind`. -/
def withDefaults (spec : Spec) (defaults : Operator.Defaults) (kind : Package.SourceKind) : Spec :=
  { spec with
    bucketFetchImage := orDefault spec.bucketFetchImage defaults.bucketFetchImage
    image := orDefault spec.image defaults.launcherImage
    package := spec.package.map (·.withSecret (defaultSecret defaults kind))
    imagePullSecrets :=
      if spec.imagePullSecrets.isEmpty then defaults.pullSecrets else spec.imagePullSecrets
    workingVolume := some ((named spec.workingVolume).getD (defaultWorkingVolume defaults)) }

/-- The older input volume as one of the volumes, mounted where inputs are looked for. -/
def withoutInputVolume (spec : Spec) : Spec :=
  match named spec.inputDataVolume with
  | none => spec
  | some volume =>
    { spec with
      inputDataVolume := none
      volumes := spec.volumes ++ [volume]
      volumeMounts := spec.volumeMounts ++ [.ofVolume volume.name inputRoot] }

/-- A file under `root`, unless its path is absolute. -/
def underRoot (root path : String) : String :=
  if Path.isAbsolute path then path else root ++ "/" ++ path

/-- Every file with its absolute path: from the bucket if there is one, else from the volume.
Variable files always come from the volume. -/
def withAbsolutePaths (spec : Spec) : Spec :=
  let bucket := spec.bucketInput.isSome
  { spec with
    inputs := spec.inputs.map (underRoot (if bucket then bucketInputRoot else inputRoot))
    data := spec.data.map (underRoot (if bucket then bucketDataRoot else inputRoot))
    variableFiles := spec.variableFiles.map (underRoot inputRoot) }

end Spec

end WorkflowPod.Workflow
