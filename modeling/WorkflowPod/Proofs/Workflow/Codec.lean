import WorkflowPod.Compile.Credentials
import WorkflowPod.Proofs.Json.Record
import WorkflowPod.Proofs.Manifest.Codec
import WorkflowPod.Workflow.Status

/-!
Specs and statuses as JSON. Main statement: what is written for one is read back as it was, and is a
normal form of all that is read as one.
-/
namespace WorkflowPod.Workflow

open Json Manifest

@[simp] theorem Package.codec_restores (p : Package) : Package.codec.Restores p :=
  Codec.restores_record (by decide) p rfl (by simp)

@[simp] theorem Amounts.codec_restores (a : Amounts) : Amounts.codec.Restores a :=
  Codec.restores_record (by decide) a rfl (by simp)

@[simp] theorem Overrides.codec_restores (o : Overrides) : Overrides.codec.Restores o :=
  Codec.restores_record (by decide) o rfl (by simp)

@[simp] theorem Credential.codec_restores (c : Credential) : Credential.codec.Restores c :=
  Codec.restores_record (by decide) c rfl (by simp)

@[simp] theorem Bucket.codec_restores (b : Bucket) : Bucket.codec.Restores b :=
  Codec.restores_record (by decide) b rfl (by simp)

theorem Spec.codec_restores (s : Spec) : Spec.codec.Restores s :=
  Codec.restores_record (by decide) s rfl (by simp)

theorem Status.codec_restores (s : Status) : Status.codec.Restores s :=
  Codec.restores_record (by decide) s rfl (by simp)

/-- The members of a spec, each with a value that counts as much as leaving the member out. -/
def Spec.blanks : List (String × Json) :=
  [("image", .null), ("imagePullSecrets", .arr []), ("package", .null), ("instance", .null),
    ("debug", .bool false), ("command", .null), ("volumes", .arr []), ("volumeMounts", .arr []),
    ("workingVolume", .null), ("inputDataVolume", .null), ("inputs", .arr []),
    ("variables", .arr []), ("data", .arr []), ("additionalOptions", .arr []),
    ("resources", .null), ("env", .arr []), ("s3BucketInput", .null),
    ("s3FetchFilesImage", .null)]

/-- The members of a status, each with a value that counts as much as leaving the member out. -/
def Status.blanks : List (String × Json) :=
  [("cost", .null), ("currentstage", .null), ("exitstatus", .null), ("experimentstate", .null),
    ("stageprogress", .null), ("stagestate", .null), ("errordescription", .null),
    ("stages", .arr []), ("totalprogress", .null), ("updated", .null), ("outputfiles", .obj []),
    ("meta", .null)]

theorem Spec.codec_roundTrips : Spec.codec.RoundTrips Spec.blanks := by
  refine Codec.roundTrips_record ?blanks (by decide) Spec.codec_restores
  have hdebug : (Member.withDefault "debug" .bool false).ReadsBlank ("debug", .bool false) :=
    Member.readsBlank_withDefault "debug" rfl
  simp [Spec.blanks, hdebug]

theorem Status.codec_roundTrips : Status.codec.RoundTrips Status.blanks := by
  refine Codec.roundTrips_record ?blanks (by decide) Status.codec_restores
  simp [Status.blanks]

/-- A bucket has all its credentials in its JSON, those that are not set as empty objects. -/
theorem Bucket.member?_encode (b : Bucket) (key : Compile.CredentialKey) :
    (Bucket.codec.encode b).member? key.field = some (Credential.codec.encode (key.of b)) := by
  obtain ⟨dataset, -, -, -, -, -⟩ := b
  cases dataset <;> cases key <;> rfl

/-- Specs and statuses are read back from what is written for them, which is a normal form of
whatever else is read as one, and in which no credential of a bucket is left out. -/
theorem codecs_roundTrip :
    Spec.codec.RoundTrips Spec.blanks ∧ Status.codec.RoundTrips Status.blanks ∧
      ∀ (b : Bucket) (key : Compile.CredentialKey),
        (Bucket.codec.encode b).member? key.field = some (Credential.codec.encode (key.of b)) :=
  ⟨Spec.codec_roundTrips, Status.codec_roundTrips, Bucket.member?_encode⟩

example : Spec.codec.normal? (.arr [.str "", .arr [], .obj [("owner", .null)]]) =
    some (.obj [("image", .str ""), ("package", .obj []), ("debug", .bool false)]) := rfl

end WorkflowPod.Workflow
