import WorkflowPod.Package.Source

/-!
The variables with the credentials of a bucket. Each has a value or a source of one, and either a
secret has them all or they are given one by one.
-/
namespace WorkflowPod.Compile

open Manifest Workflow

inductive CredentialKey where
  | accessKeyId
  | secretAccessKey
  | endpoint
  | bucket
  | region
  deriving DecidableEq, Repr

namespace CredentialKey

def all : List CredentialKey := [accessKeyId, secretAccessKey, endpoint, bucket, region]

def field : CredentialKey → String
  | accessKeyId => "accessKeyID"
  | secretAccessKey => "secretAccessKey"
  | endpoint => "endpoint"
  | bucket => "bucket"
  | region => "region"

def variableName : CredentialKey → String
  | accessKeyId => "S3_ACCESS_KEY_ID"
  | secretAccessKey => "S3_SECRET_ACCESS_KEY"
  | endpoint => "S3_ENDPOINT"
  | bucket => "S3_BUCKET"
  | region => "S3_REGION"

def of (key : CredentialKey) (b : Bucket) : Credential :=
  match key with
  | accessKeyId => b.accessKeyId
  | secretAccessKey => b.secretAccessKey
  | endpoint => b.endpoint
  | bucket => b.bucket
  | region => b.region

/-- The variable for a credential that is given by itself. -/
def variableOf (key : CredentialKey) (b : Bucket) : Variable :=
  { name := key.variableName, value := given (key.of b).value, valueFrom := (key.of b).valueFrom }

def variableFrom (key : CredentialKey) (secret : String) : Variable :=
  { name := key.variableName, valueFrom := some (.ofSecretKey secret key.field) }

end CredentialKey

/-- Whether a credential has both a value and a source of one. -/
def isDoubled (c : Credential) : Bool := (given c.value).isSome && c.valueFrom.isSome

def credentialVariables (b : Bucket) : Except SpecFault (List Variable) :=
  match CredentialKey.all.find? fun key => isDoubled (key.of b) with
  | some key =>
    .error (.conflict ("spec.s3BucketInput." ++ key.field ++ " sets both value and valueFrom"))
  | none =>
    match given b.dataset with
    | none => .ok (CredentialKey.all.map (·.variableOf b))
    | some secret =>
      match CredentialKey.all.find? fun key => (key.of b).isSet with
      | some key =>
        .error (.conflict ("spec.s3BucketInput.dataset and spec.s3BucketInput." ++ key.field ++
          " are mutually exclusive"))
      | none => .ok (CredentialKey.all.map (·.variableFrom secret))

end WorkflowPod.Compile
