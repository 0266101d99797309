import WorkflowPod.Manifest.Variable
import WorkflowPod.Manifest.Volume

/-!
What a workflow asks for. Optional texts are kept as they were given; whoever uses one goes through
`given`, for which an empty text is as good as none.
-/
namespace WorkflowPod.Workflow

open Json Manifest

/-- An optional text, unless it is empty. -/
def given (value : Option String) : Option String := value.filter (· ≠ "")

structure Package where
  url : Option String := none
  branch : Option String := none
  commitId : Option String := none
  mount : Option String := none
  gitSecret : Option String := none
  fromConfigMap : Option String := none
  fromPath : Option String := none
  withManifest : Option String := none
  deriving DecidableEq, Repr

def Package.codec : Codec Package :=
  .record
    (.cons (.optional "url" .text) <| .cons (.optional "branch" .text) <|
      .cons (.optional "commitId" .text) <| .cons (.optional "mount" .text) <|
      .cons (.optional "gitsecret" .text) <| .cons (.optional "fromConfigMap" .text) <|
      .cons (.optional "fromPath" .text) <| .cons (.optional "withManifest" .text) .nil)
    (fun p => (p.url, p.branch, p.commitId, p.mount, p.gitSecret, p.fromConfigMap, p.fromPath,
      p.withManifest, ()))
    (fun (url, branch, commitId, mount, gitSecret, fromConfigMap, fromPath, withManifest, ()) =>
      { url, branch, commitId, mount, gitSecret, fromConfigMap, fromPath, withManifest })

/-- Processor time and memory of a container, each if it is set. -/
structure Amounts where
  cpu : Option String := none
  memory : Option String := none
  deriving DecidableEq, Repr

def Amounts.codec : Codec Amounts :=
  .record (.cons (.optional "cpu" .text) <| .cons (.optional "memory" .text) .nil)
    (fun a => (a.cpu, a.memory, ()))
    (fun (cpu, memory, ()) => { cpu, memory })

/-- Amounts for the containers by what they do. -/
structure Overrides where
  launcher : Option Amounts := none
  monitor : Option Amounts := none
  fetch : Option Amounts := none
  deriving DecidableEq, Repr

def Overrides.codec : Codec Overrides :=
  .record
    (.cons (.optional "elaunchPrimary" Amounts.codec) <|
      .cons (.optional "monitor" Amounts.codec) <| .cons (.optional "gitFetch" Amounts.codec) .nil)
    (fun o => (o.launcher, o.monitor, o.fetch, ()))
    (fun (launcher, monitor, fetch, ()) => { launcher, monitor, fetch })

/-- A credential of a bucket: its value or where the value comes from. -/
structure Credential where
  value : Option String := none
  valueFrom : Option ValueSource := none
  deriving DecidableEq, Repr

namespace Credential

def codec : Codec Credential :=
  .record (.cons (.optional "value" .text) <| .cons (.optional "valueFrom" ValueSource.codec) .nil)
    (fun c => (c.value, c.valueFrom, ()))
    (fun (value, valueFrom, ()) => { value, valueFrom })

/-- Whether a credential has a value or a source of one. -/
def isSet (c : Credential) : Bool := (given c.value).isSome || c.valueFrom.isSome

end Credential

/-- A bucket that input and data files are fetched from. -/
structure Bucket where
  /-- A secret with all the credentials. -/
  dataset : Option String := none
  accessKeyId : Credential := {}
  secretAccessKey : Credential := {}
  endpoint : Credential := {}
  bucket : Credential := {}
  region : Credential := {}
  deriving DecidableEq, Repr

def Bucket.codec : Codec Bucket :=
  let credential (key : String) : Member Credential := .withDefault key Credential.codec {}
  .record
    (.cons (.optional "dataset" .text) <| .cons (credential "accessKeyID") <|
      .cons (credential "secretAccessKey") <| .cons (credential "endpoint") <|
      .cons (credential "bucket") <| .cons (credential "region") .nil)
    (fun b => (b.dataset, b.accessKeyId, b.secretAccessKey, b.endpoint, b.bucket, b.region, ()))
    (fun (dataset, accessKeyId, secretAccessKey, endpoint, bucket, region, ()) =>
      { dataset, accessKeyId, secretAccessKey, endpoint, bucket, region })

structure Spec where
  image : Option String := none
  imagePullSecrets : List String := []
  package : Option Package := none
  /-- A directory of an earlier run under the working volume. -/
  instanceName : Option String := none
  debug : Bool := false
  command : Option String := none
  volumes : List Volume := []
  volumeMounts : List VolumeMount := []
  workingVolume : Option Volume := none
  /-- An older way to give a volume with input files. -/
  inputDataVolume : Option Volume := none
  inputs : List String := []
  variableFiles : List String := []
  data : List String := []
  additionalOptions : List String := []
  resources : Option Overrides := none
  env : List Variable := []
  bucketInput : Option Bucket := none
  bucketFetchImage : Option String := none
  deriving DecidableEq, Repr

def Spec.codec : Codec Spec :=
  .record
    (.cons (.optional "image" .text) <| .cons (.unlessEmpty "imagePullSecrets" .text) <|
      .cons (.optional "package" Package.codec) <| .cons (.optional "instance" .text) <|
      .cons (.withDefault "debug" .bool false) <| .cons (.optional "command" .text) <|
      .cons (.unlessEmpty "volumes" Volume.codec) <|
      .cons (.unlessEmpty "volumeMounts" VolumeMount.codec) <|
      .cons (.optional "workingVolume" Volume.codec) <|
      .cons (.optional "inputDataVolume" Volume.codec) <| .cons (.unlessEmpty "inputs" .text) <|
      .cons (.unlessEmpty "variables" .text) <| .cons (.unlessEmpty "data" .text) <|
      .cons (.unlessEmpty "additionalOptions" .text) <|
      .cons (.optional "resources" Overrides.codec) <| .cons (.unlessEmpty "env" Variable.codec) <|
      .cons (.optional "s3BucketInput" Bucket.codec) <|
      .cons (.optional "s3FetchFilesImage" .text) .nil)
    (fun s => (s.image, s.imagePullSecrets, s.package, s.instanceName, s.debug, s.command,
      s.volumes, s.volumeMounts, s.workingVolume, s.inputDataVolume, s.inputs, s.variableFiles,
      s.data, s.additionalOptions, s.resources, s.env, s.bucketInput, s.bucketFetchImage, ()))
    (fun (image, imagePullSecrets, package, instanceName, debug, command, volumes, volumeMounts,
      workingVolume, inputDataVolume, inputs, variableFiles, data, additionalOptions, resources,
      env, bucketInput, bucketFetchImage, ()) =>
        { image, imagePullSecrets, package, instanceName, debug, command, volumes, volumeMounts,
          workingVolume, inputDataVolume, inputs, variableFiles, data, additionalOptions, resources,
          env, bucketInput, bucketFetchImage })

end WorkflowPod.Workflow
