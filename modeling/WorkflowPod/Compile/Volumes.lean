import WorkflowPod.Package.Source
import WorkflowPod.Plan
import WorkflowPod.Workflow.Normal

/-! The volumes of a workflow pod and the mounts its containers share. -/
namespace WorkflowPod.Compile

open Manifest Workflow Package

def configVolume : String := "config-volume"

/-- The volume with the credentials of the repository. -/
def secretVolume : String := "git-secrets-package"

/-- The volume with the user database, and the config map it is made of. -/
def passwdVolume : String := "git-sync-config"

def packageVolume : String := "git-sync-package"

def temporaryVolume : String := "tmp-volume-name"

/-- The volume files from a bucket are fetched into. -/
def bucketVolume : String := "s3-fetch"

/-- Credentials may be read by owner and group. -/
def secretMode : Int32 := 0o440

def workingRoot : String := "/tmp/workdir"

def configFile : String := "/etc/podinfo/flow-k8s-conf.yml"

def configMount : VolumeMount := .ofFile configVolume Plan.configFileKey configFile

def passwdMount : VolumeMount := .ofFile passwdVolume "passwd" "/etc/passwd"

def temporaryMount : VolumeMount := .ofVolume temporaryVolume "/tmp"

/-- The working volume as the directory of the run. -/
def workingMount (working : Volume) : VolumeMount := .ofVolume working.name workingRoot

def definitionVolumes : Source → List Volume
  | .configMap name => [.ofConfigMap name name]
  | .https .. | .ssh _ | .volumePath | .earlierRun _ => []

def volumes (name : String) (spec : Spec) (source : Source) (working : Volume)
    (secret : Option String) : List Volume :=
  spec.volumes ++ [.ofConfigMap configVolume (Plan.configMapName name), working] ++
    (secret.map fun secret => .ofSecret secretVolume secret secretMode).toList ++
    [.ofConfigMap passwdVolume passwdVolume] ++ definitionVolumes source ++
    [.ofEmptyDir packageVolume, .ofEmptyDir temporaryVolume] ++
    (if spec.bucketInput.isSome then [.ofEmptyDir bucketVolume] else [])

end WorkflowPod.Compile
