import WorkflowPod.Compile.Credentials
import WorkflowPod.Compile.Volumes
import WorkflowPod.Operator.Environment
import WorkflowPod.Package.Fetch
import WorkflowPod.Path.Reference
import WorkflowPod.Workflow.Resources

/-!
The containers of a workflow pod: one that fetches the package, one that fetches files from a
bucket, the launcher, and the monitor beside it. They are made from a spec that has been normalised.
-/
namespace WorkflowPod.Compile

open Manifest Workflow Package

/-- Images are looked up every time. -/
def pullPolicy : String := "Always"

/-- The user of the containers that fetch; it is also their group. -/
def fetchSecurityContext (environment : Operator.Environment) : SecurityContext :=
  { runAsUser := some environment.userId, runAsGroup := some environment.userId }

def fetchCommand (source : Source) (package : Workflow.Package) (credential : Bool) : Command :=
  let branch := given package.branch
  let commit := given package.commitId
  match source with
  | .https url host path =>
    (HttpsFetch.of url host path credential (.commitFirst branch commit)).command
  | .ssh url => sshFetch url (.branchFirst branch commit)
  | .configMap _ => expandDefinition
  | .volumePath | .earlierRun _ => ⟨none, []⟩

def definitionMounts : Source → List VolumeMount
  | .configMap name => [.ofVolume name definitionRoot]
  | .https .. | .ssh _ | .volumePath | .earlierRun _ => []

def packageFetchContainer (spec : Spec) (source : Source) (package : Workflow.Package)
    (secret : Option String) (defaults : Operator.Defaults) (environment : Operator.Environment) :
    Container :=
  let command := fetchCommand source package secret.isSome
  { name := "git-sync-package"
    image := some defaults.gitSyncImage
    command := command.words
    args := some command.args
    imagePullPolicy := some pullPolicy
    resources := some (Role.fetch.requirements spec.resources)
    securityContext := some (fetchSecurityContext environment)
    volumeMounts := some ([.ofVolume packageVolume fetchRoot, passwdMount] ++
      definitionMounts source ++
      if secret.isSome then [.ofVolume secretVolume secretRoot] else []) }

/-- The files of `paths` under `root` as arguments after `flag`, each by its name in the bucket. -/
def bucketArgs (flag root : String) (paths : List String) : List String :=
  (paths.filterMap fun path => Text.afterLead? (root ++ "/").toList path.toList).flatMap fun rest =>
    [flag, (Path.Reference.parse (String.ofList rest)).source]

def bucketFetchContainer (spec : Spec) (bucket : Bucket) (environment : Operator.Environment) :
    Except SpecFault Container := do
  let credentials ← credentialVariables bucket
  return {
    name := "s3-fetch"
    image := spec.bucketFetchImage
    args := some (bucketArgs "-i" bucketInputRoot spec.inputs ++
      bucketArgs "-d" bucketDataRoot spec.data)
    env := some ({ name := "ROOT_OUTPUT", value := some bucketRoot } :: credentials)
    imagePullPolicy := some pullPolicy
    resources := some (Role.fetch.requirements spec.resources)
    securityContext := some (fetchSecurityContext environment)
    volumeMounts := some [.ofVolume bucketVolume bucketRoot, passwdMount]
    workingDir := some "/workdir" }

def packageMount (package : Workflow.Package) : String := (given package.mount).getD "/mnt/package"

/-- Where the launcher finds what its source provides: nothing for a path on a volume. -/
def packageBase (source : Source) (package : Workflow.Package) : String :=
  match source with
  | .https url _ _ | .ssh url => Path.join [packageMount package, Path.baseName url]
  | .configMap _ => Path.join [packageMount package, "lambda.package"]
  | .earlierRun name => Path.join [workingRoot, name]
  | .volumePath => ""

/-- The package for the launcher, narrowed to a path in it if there is one. -/
def packagePath (source : Source) (package : Workflow.Package) : String :=
  let base := packageBase source package
  match given package.fromPath with
  | some path => Path.resolve base path
  | none => base

def manifestWords (source : Source) (package : Workflow.Package) : List String :=
  match given package.withManifest with
  | some manifest => ["--manifest", Path.resolve (packageBase source package) manifest]
  | none => []

def fileWords (flag : String) (paths : List String) : List String :=
  paths.flatMap fun path => [flag, path]

/-- The launcher's command line; a workflow to be debugged only prints it. -/
def launcherWords (spec : Spec) (source : Source) (package : Workflow.Package) : List String :=
  (if spec.debug then ["echo"] else []) ++ [(given spec.command).getD "elaunch.py"] ++
    fileWords "-i" spec.inputs ++ fileWords "-a" spec.variableFiles ++ fileWords "-d" spec.data ++
    spec.additionalOptions ++ manifestWords source package ++ [packagePath source package]

def runVariables : Source → List Variable
  | .earlierRun name => [{ name := "INSTANCE_DIR_NAME", value := some name }]
  | .https .. | .ssh _ | .configMap _ | .volumePath => []

def launcherContainer (spec : Spec) (source : Source) (package : Workflow.Package)
    (working : Volume) : Container :=
  { name := "elaunch-primary"
    image := spec.image
    command := some (launcherWords spec source package)
    env := some (spec.env ++ runVariables source)
    imagePullPolicy := some pullPolicy
    resources := some (Role.launcher.requirements spec.resources)
    volumeMounts := some (spec.volumeMounts ++
      [configMount, workingMount working, .ofVolume packageVolume (packageMount package),
        temporaryMount, passwdMount] ++
      if spec.bucketInput.isSome then [.ofVolume bucketVolume bucketRoot] else [])
    workingDir := some workingRoot }

/-- The monitor is given time before it stops. -/
def monitorLifecycle : Lifecycle :=
  { preStop := some { exec := some { command := some ["/bin/sh", "-c", "sleep 10"] } } }

def monitorContainer (spec : Spec) (working : Volume) (defaults : Operator.Defaults) : Container :=
  { name := "monitor-elaunch-container"
    image := some defaults.monitorImage
    env := some spec.env
    imagePullPolicy := some pullPolicy
    lifecycle := some monitorLifecycle
    resources := some (Role.monitor.requirements spec.resources)
    volumeMounts := some [workingMount working, temporaryMount, configMount, passwdMount] }

end WorkflowPod.Compile
