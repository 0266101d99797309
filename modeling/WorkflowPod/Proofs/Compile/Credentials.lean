import WorkflowPod.Proofs.Compile.Secret

/-!
The credentials of a bucket. Main statement: they are variables of the container that fetches from
the bucket, each once and either with its value or with where that comes from, and two buckets make
no difference to a pod but in these variables.
-/
namespace WorkflowPod.Compile

open Manifest Workflow Package

/-- The credentials as a secret has them, each under its own key. -/
def secretCredentials (secret : String) : List Variable :=
  [("S3_ACCESS_KEY_ID", "accessKeyID"), ("S3_SECRET_ACCESS_KEY", "secretAccessKey"),
    ("S3_ENDPOINT", "endpoint"), ("S3_BUCKET", "bucket"), ("S3_REGION", "region")].map
      fun (name, key) =>
        { name, valueFrom := some { secretKeyRef := some { name := secret, key } } }

/-- The credentials as a bucket gives them one by one. -/
def singleCredentials (b : Bucket) : List Variable :=
  [("S3_ACCESS_KEY_ID", b.accessKeyId), ("S3_SECRET_ACCESS_KEY", b.secretAccessKey),
    ("S3_ENDPOINT", b.endpoint), ("S3_BUCKET", b.bucket), ("S3_REGION", b.region)].map
      fun (name, c) => { name, value := given c.value, valueFrom := c.valueFrom }

/-- What the container that fetches from a bucket is told: where to, and each credential once. -/
structure TellsBucket (b : Bucket) (env : List Variable) : Prop where
  names : env.map (·.name) = ["ROOT_OUTPUT", "S3_ACCESS_KEY_ID", "S3_SECRET_ACCESS_KEY",
    "S3_ENDPOINT", "S3_BUCKET", "S3_REGION"]
  root : env.head? = some { name := "ROOT_OUTPUT", value := some "/tmp/s3-root-dir" }
  /-- A dataset has all of them. -/
  dataset : ∀ secret, b.dataset = some secret → secret ≠ "" → env.tail = secretCredentials secret
  /-- Without a dataset each is as the bucket has it. -/
  single : ¬Given b.dataset → env.tail = singleCredentials b
  exclusive : ∀ v ∈ env, v.value = none ∨ v.valueFrom = none

theorem singleCredentials_exclusive {b : Bucket}
    (h : ∀ key : CredentialKey, ¬(Given (key.of b).value ∧ (key.of b).valueFrom ≠ none)) :
    ∀ v ∈ singleCredentials b, v.value = none ∨ v.valueFrom = none := by
  have hkey (key : CredentialKey) :
      given (key.of b).value = none ∨ (key.of b).valueFrom = none := by
    rw [or_iff_not_and_not]
    rintro ⟨hvalue, hfrom⟩
    exact h key ⟨(isSome_given_iff _).1 (Option.isSome_iff_ne_none.2 hvalue), hfrom⟩
  intro v hv
  simp only [singleCredentials, List.map_cons, List.map_nil, List.mem_cons, List.not_mem_nil,
    or_false] at hv
  obtain rfl | rfl | rfl | rfl | rfl := hv
  · exact hkey .accessKeyId
  · exact hkey .secretAccessKey
  · exact hkey .endpoint
  · exact hkey .bucket
  · exact hkey .region

theorem tellsBucket_of_credentialVariables {b : Bucket} {credentials : List Variable}
    (h : credentialVariables b = .ok credentials) :
    TellsBucket b ({ name := "ROOT_OUTPUT", value := some bucketRoot } :: credentials) := by
  unfold credentialVariables at h
  split at h
  · cases h
  · rename_i hnone
    have hsingle := (find?_all_eq_none_iff fun key => isDoubled_iff (key.of b)).1 hnone
    split at h
    · rename_i hdataset
      have hblank : ¬Given b.dataset := by
        rw [← isSome_given_iff, hdataset]
        exact Bool.false_ne_true
      cases h
      constructor
      case names => rfl
      case root => rfl
      case dataset => exact fun secret hsecret hne => absurd ⟨secret, hsecret, hne⟩ hblank
      case single => exact fun _ => rfl
      case exclusive =>
        exact List.forall_mem_cons.2 ⟨.inr rfl, singleCredentials_exclusive hsingle⟩
    · rename_i secret hdataset
      split at h
      · cases h
      · cases h
        constructor
        case names => rfl
        case root => rfl
        case dataset =>
          intro secret' hsecret hne
          rw [hsecret, given_some hne] at hdataset
          cases hdataset
          rfl
        case single =>
          intro hblank
          rw [← isSome_given_iff, hdataset] at hblank
          exact absurd rfl hblank
        case exclusive =>
          refine List.forall_mem_cons.2 ⟨.inr rfl, fun v hv => .inl ?_⟩
          obtain ⟨key, -, rfl⟩ := List.mem_map.1 hv
          rfl

section Fetch

variable {workflow : Workflow} {defaults : Operator.Defaults}
  {environment : Operator.Environment} {source : Source} {b : Bucket}

theorem exists_env_bucketFetch {c : Container}
    (h : bucketFetch workflow defaults environment source b = .ok c) :
    ∃ env, c.env = some env ∧ TellsBucket b env := by
  unfold bucketFetch bucketFetchContainer at h
  obtain ⟨credentials, hcredentials, ⟨⟩⟩ := exists_of_bind h
  exact ⟨_, rfl, tellsBucket_of_credentialVariables hcredentials⟩

theorem exists_bucketFetch (hfault : ∀ fault, ¬BucketFault b fault) (workflow : Workflow)
    (defaults : Operator.Defaults) (environment : Operator.Environment) (source : Source) :
    ∃ c, bucketFetch workflow defaults environment source b = .ok c := by
  cases h : bucketFetch workflow defaults environment source b with
  | error fault => exact absurd (bucketFetchContainer_eq_error_iff.1 h) (hfault fault)
  | ok c => exact ⟨c, rfl⟩

/-- The containers that fetch, where there is a bucket. -/
theorem fetchContainers_of_bucketInput (hbucket : workflow.spec.bucketInput = some b) :
    fetchContainers workflow defaults environment source =
      (bucketFetch workflow defaults environment source b).map
        ((packageFetch? workflow defaults environment source).toList ++ [·]) := by
  rw [fetchContainers_eq, hbucket]

theorem exists_bucketFetch_of_fetchContainers (hbucket : workflow.spec.bucketInput = some b)
    {fetches : List Container}
    (h : fetchContainers workflow defaults environment source = .ok fetches) :
    ∃ c, bucketFetch workflow defaults environment source b = .ok c ∧
      fetches = (packageFetch? workflow defaults environment source).toList ++ [c] := by
  rw [fetchContainers_of_bucketInput hbucket] at h
  obtain ⟨c, hc, rfl⟩ := exists_of_map h
  exact ⟨c, hc, rfl⟩

/-- By name the container for the bucket is the only one of those that fetch. -/
theorem filter_fetches {c : Container}
    (h : bucketFetch workflow defaults environment source b = .ok c) :
    ((packageFetch? workflow defaults environment source).toList ++ [c]).filter
      (·.name == "s3-fetch") = [c] := by
  have hname : c.name = "s3-fetch" := (name_and_volumeMounts_bucketFetch h).1
  have hpackage : (packageFetch? workflow defaults environment source).toList.filter
      (·.name == "s3-fetch") = [] := by
    refine List.filter_eq_nil_iff.2 fun other hother => ?_
    obtain ⟨rfl, -⟩ := eq_of_mem_packageFetch? (Option.mem_toList.1 hother)
    exact (show ¬("git-sync-package" == "s3-fetch") = true by decide)
  rw [List.filter_append, hpackage, List.nil_append]
  simp [hname]

end Fetch

end WorkflowPod.Compile

namespace WorkflowPod

open Manifest

/-- A workflow with another bucket. -/
def Workflow.withBucket (workflow : Workflow) (b : Workflow.Bucket) : Workflow :=
  { workflow with spec := { workflow.spec with bucketInput := some b } }

/-- A container, without its variables if it is called `name`. -/
def Manifest.Container.withoutEnv (name : String) (c : Container) : Container :=
  if c.name = name then { c with env := none } else c

/-- The containers that run before the others. -/
def Manifest.Pod.initContainers (pod : Pod) : List Container :=
  (pod.spec.bind (·.initContainers)).getD []

/-- A pod without the variables of the container called `name` that runs before the others. -/
def Manifest.Pod.withoutEnv (name : String) (pod : Pod) : Pod :=
  { pod with
    spec := pod.spec.map fun spec =>
      { spec with initContainers := spec.initContainers.map (·.map (·.withoutEnv name)) } }

theorem Plan.initContainers_pod (plan : Plan) : plan.pod.initContainers = plan.initContainers := by
  unfold pod Pod.initContainers
  cases plan.initContainers <;> rfl

/-- Without these variables a pod depends on its first containers only without theirs. -/
theorem Plan.withoutEnv_pod {name : String} (plan : Plan) {fetches fetches' : List Container}
    (h : fetches.map (·.withoutEnv name) = fetches'.map (·.withoutEnv name)) :
    ({ plan with initContainers := fetches } : Plan).pod.withoutEnv name =
      ({ plan with initContainers := fetches' } : Plan).pod.withoutEnv name := by
  have hfirst (fetches : List Container) :
      (if fetches.isEmpty then none else some fetches).map (·.map (·.withoutEnv name)) =
        if (fetches.map (·.withoutEnv name)).isEmpty then none
        else some (fetches.map (·.withoutEnv name)) := by
    cases fetches <;> rfl
  unfold pod Pod.withoutEnv
  simp only [Option.map_some, hfirst, h]
  rfl

namespace Compile

open Workflow Package

section Bucket

variable {workflow : Workflow} {b : Bucket} (hbucket : workflow.spec.bucketInput = some b)
  (defaults : Operator.Defaults) (environment : Operator.Environment) (source : Source)
  (b' : Bucket)

include hbucket

theorem normalized_withBucket (kind : SourceKind) :
    normalized (workflow.withBucket b').spec defaults kind =
      { normalized workflow.spec defaults kind with bucketInput := some b' } := by
  rw [normalized_eq, normalized_eq]
  simp only [Spec.withAbsolutePaths, Spec.withDefaults, withBucket, hbucket, Option.isSome_some]
  rfl

theorem packageFetch?_withBucket :
    packageFetch? (workflow.withBucket b') defaults environment source =
      packageFetch? workflow defaults environment source := by
  unfold packageFetch? packageFetch
  rw [normalized_withBucket hbucket]
  rfl

theorem planWith_withBucket (fetches : List Container) :
    planWith (workflow.withBucket b') defaults environment source fetches =
      planWith workflow defaults environment source fetches := by
  have hnormalized : (normalized workflow.spec defaults source.kind).bucketInput = some b := by
    rw [bucketInput_normalized, hbucket]
  unfold planWith launcherContainer volumes
  rw [normalized_withBucket hbucket]
  simp only [hnormalized, Option.isSome_some]
  rfl

theorem withoutEnv_bucketFetch {c c' : Container}
    (h : bucketFetch workflow defaults environment source b = .ok c)
    (h' : bucketFetch (workflow.withBucket b') defaults environment source b' = .ok c') :
    c'.withoutEnv "s3-fetch" = c.withoutEnv "s3-fetch" := by
  unfold bucketFetch bucketFetchContainer at h h'
  rw [normalized_withBucket hbucket] at h'
  obtain ⟨credentials, -, ⟨⟩⟩ := exists_of_bind h
  obtain ⟨credentials', -, ⟨⟩⟩ := exists_of_bind h'
  rfl

end Bucket

/-- The credentials of a bucket are told to the one container that fetches from it, and another
bucket that can be used as well makes no difference to the rest of the pod. -/
theorem credentials_isolated {workflow : Workflow} {defaults : Operator.Defaults}
    {environment : Operator.Environment} {plan : Plan} {b : Bucket}
    (hbucket : workflow.spec.bucketInput = some b)
    (h : compile workflow defaults environment = .ok plan) :
    (∃ c env, plan.pod.initContainers.filter (·.name == "s3-fetch") = [c] ∧ c.env = some env ∧
      TellsBucket b env) ∧
    ∀ b', (∀ fault, ¬BucketFault b' fault) →
      ∃ plan', compile (workflow.withBucket b') defaults environment = .ok plan' ∧
        plan'.pod.withoutEnv "s3-fetch" = plan.pod.withoutEnv "s3-fetch" := by
  obtain ⟨source, fetches, hsource, hfetches, rfl⟩ := exists_planWith h
  obtain ⟨c, hc, rfl⟩ := exists_bucketFetch_of_fetchContainers hbucket hfetches
  obtain ⟨env, henv, htells⟩ := exists_env_bucketFetch hc
  refine ⟨⟨c, env, ?_, henv, htells⟩, fun b' hfault => ?_⟩
  · rw [Plan.initContainers_pod]
    exact filter_fetches hc
  · obtain ⟨c', hc'⟩ := exists_bucketFetch hfault (workflow.withBucket b') defaults environment
      source
    have hsource' : Source.classify (workflow.withBucket b').spec = .ok source := hsource
    have hplan' := compile_eq_map defaults environment hsource'
    rw [fetchContainers_of_bucketInput (b := b') rfl, hc', packageFetch?_withBucket hbucket]
      at hplan'
    refine ⟨_, hplan', ?_⟩
    rw [planWith_withBucket hbucket]
    refine Plan.withoutEnv_pod (planWith workflow defaults environment source []) ?_
    rw [List.map_append, List.map_append, List.map_singleton, List.map_singleton,
      withoutEnv_bucketFetch hbucket defaults environment source b' hc hc']

theorem credentials_isolated_fetchingWorkflow :
    let stored : Bucket := { dataset := some "secret", region := { value := some "" } }
    ∃ plan plan', compile fetchingWorkflow {} {} = .ok plan ∧
      compile (fetchingWorkflow.withBucket stored) {} {} = .ok plan' ∧
      (∀ fault, ¬BucketFault stored fault) ∧
      (∃ c env, plan.pod.initContainers.filter (·.name == "s3-fetch") = [c] ∧ c.env = some env ∧
        TellsBucket { bucket := { value := some "files" } } env) ∧
      plan'.pod.withoutEnv "s3-fetch" = plan.pod.withoutEnv "s3-fetch" ∧ plan'.pod ≠ plan.pod := by
  intro stored
  have hfault (fault : SpecFault) : ¬BucketFault stored fault := by
    have hstored : credentialVariables stored = .ok (secretCredentials "secret") := rfl
    rw [← credentialVariables_eq_error_iff, hstored]
    exact nofun
  obtain ⟨plan, hplan⟩ : ∃ plan, compile fetchingWorkflow {} {} = .ok plan := ⟨_, rfl⟩
  obtain ⟨hold, hother⟩ := credentials_isolated rfl hplan
  obtain ⟨plan', hplan', hsame⟩ := hother stored hfault
  refine ⟨plan, plan', hplan, hplan', hfault, hold, hsame, ?_⟩
  obtain rfl := Except.ok.inj hplan
  obtain rfl := Except.ok.inj hplan'
  decide

end Compile

end WorkflowPod
