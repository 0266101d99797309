import WorkflowPod.Proofs.Compile.Blank

/-!
What a plan is made of, for whoever has one: its source, and each part as the function that makes it
gives it from the spec after the passes.
-/
namespace WorkflowPod.Compile

open Manifest Workflow Package

/-- The volumes a workflow brings along: its own, and the older input volume if it has a name. -/
def broughtVolumes (spec : Spec) : List Volume :=
  spec.volumes ++ (named spec.inputDataVolume).toList

/-- Where the older input volume is mounted, if it has a name. -/
def inputMounts (spec : Spec) : List VolumeMount :=
  (named spec.inputDataVolume).toList.map fun volume => .ofVolume volume.name inputRoot

/-- The working volume: the workflow's if it has a name, or else the default one. -/
def workingVolume (spec : Spec) (defaults : Operator.Defaults) : Volume :=
  (named spec.workingVolume).getD (defaultWorkingVolume defaults)

/-- The secret for a package of a kind: the package's own, or else the default one for keys or for
tokens. -/
def effectiveSecret (spec : Spec) (defaults : Operator.Defaults) (kind : SourceKind) :
    Option String :=
  (given (spec.package.bind (·.gitSecret))).or <|
    match kind with
    | .ssh => given (some defaults.sshSecret)
    | .https => given (some defaults.tokenSecret)
    | .configMap | .volumePath | .earlierRun => none

section Normalized

variable (spec : Spec) (defaults : Operator.Defaults) (kind : SourceKind)

/-- The older input volume aside, the passes work on each field by itself. -/
theorem normalized_eq :
    normalized spec defaults kind =
      { (spec.withDefaults defaults kind).withAbsolutePaths with
        inputDataVolume :=
          if (named spec.inputDataVolume).isSome then none else spec.inputDataVolume
        volumes := broughtVolumes spec
        volumeMounts := spec.volumeMounts ++ inputMounts spec } := by
  unfold normalized broughtVolumes inputMounts
  cases h : named spec.inputDataVolume with
  | none =>
    rw [Spec.withoutInputVolume_of_none (spec.withDefaults defaults kind) h]
    simp [Spec.withDefaults, Spec.withAbsolutePaths]
  | some volume =>
    rw [Spec.withoutInputVolume_of_some (spec.withDefaults defaults kind) h]
    rfl

@[simp] theorem volumes_normalized :
    (normalized spec defaults kind).volumes = broughtVolumes spec := by
  rw [normalized_eq]

@[simp] theorem volumeMounts_normalized :
    (normalized spec defaults kind).volumeMounts = spec.volumeMounts ++ inputMounts spec := by
  rw [normalized_eq]

@[simp] theorem bucketInput_normalized :
    (normalized spec defaults kind).bucketInput = spec.bucketInput := by
  rw [normalized_eq]
  rfl

@[simp] theorem workingVolume_normalized :
    (normalized spec defaults kind).workingVolume = some (workingVolume spec defaults) := by
  rw [normalized_eq]
  rfl

@[simp] theorem package_normalized :
    (normalized spec defaults kind).package =
      spec.package.map (·.withSecret (defaultSecret defaults kind)) := by
  rw [normalized_eq]
  rfl

/-- The package of a plan differs from the workflow's in nothing but the secret. -/
theorem given_gitSecret_withSecret (package : Workflow.Package) (secret : String) :
    given (package.withSecret secret).gitSecret =
      (given package.gitSecret).or (given (some secret)) := by
  unfold Package.withSecret
  by_cases hsecret : secret = ""
  · have hblank : given (some "") = none := rfl
    simp [hsecret, hblank]
  · rw [given_some hsecret]
    cases h : given package.gitSecret with
    | none => simp [hsecret, given_some hsecret]
    | some own => simp [h]

end Normalized

/-- The secret that is filled in for a package is the effective one. Without a package none is
filled in, but then the source is one that no secret is for. -/
theorem given_gitSecret_normalized {spec : Spec} {source : Source}
    (h : Source.classify spec = .ok source) (defaults : Operator.Defaults) :
    given ((normalized spec defaults source.kind).package.getD {}).gitSecret =
      effectiveSecret spec defaults source.kind := by
  have hdefault : given (some (defaultSecret defaults source.kind)) =
      match source.kind with
      | .ssh => given (some defaults.sshSecret)
      | .https => given (some defaults.tokenSecret)
      | .configMap | .volumePath | .earlierRun => none := by
    cases source.kind <;> rfl
  unfold effectiveSecret
  rw [package_normalized, ← hdefault]
  cases hpackage : spec.package with
  | none =>
    rw [Source.kind_of_classify hpackage h]
    rfl
  | some package => exact given_gitSecret_withSecret package _

section Plan

variable (workflow : Workflow) (defaults : Operator.Defaults)
  (environment : Operator.Environment) (source : Source)

/-- The containers that fetch for a workflow, from its spec after the passes. -/
def fetchContainers : Except SpecFault (List Container) :=
  let spec := normalized workflow.spec defaults source.kind
  initContainers spec source (spec.package.getD {})
    (effectiveSecret workflow.spec defaults source.kind) defaults environment

/-- The plan of a workflow with these containers to fetch, from its spec after the passes. -/
def planWith (fetches : List Container) : Plan :=
  let spec := normalized workflow.spec defaults source.kind
  let working := workingVolume workflow.spec defaults
  { name := workflow.name
    namespaceName := workflow.metadata.namespaceName
    labels := labels workflow
    owner := workflow.ownerReference?
    initContainers := fetches
    primary := launcherContainer spec source (spec.package.getD {}) working
    monitor := monitorContainer spec working defaults
    volumes := volumes workflow.name spec source working
      (effectiveSecret workflow.spec defaults source.kind)
    serviceAccount := environment.serviceAccount
    restartPolicy := "Never"
    gracePeriodSeconds := 600
    securityContext := securityContext environment
    pullSecrets := spec.imagePullSecrets }

variable {workflow source}

/-- Once the source is known only the containers that fetch can fail, as there always is a working
volume. -/
theorem compile_eq_map (h : Source.classify workflow.spec = .ok source) :
    compile workflow defaults environment =
      (fetchContainers workflow defaults environment source).map
        (planWith workflow defaults environment source) := by
  rw [compile_of_ok h, planOf, workingVolume_normalized]
  simp only [given_gitSecret_normalized h]
  rfl

variable {defaults environment}

theorem exists_planWith {plan : Plan} (h : compile workflow defaults environment = .ok plan) :
    ∃ source fetches, Source.classify workflow.spec = .ok source ∧
      fetchContainers workflow defaults environment source = .ok fetches ∧
      plan = planWith workflow defaults environment source fetches := by
  cases hsource : Source.classify workflow.spec with
  | error fault =>
    rw [compile_of_error hsource] at h
    cases h
  | ok source =>
    rw [compile_eq_map defaults environment hsource] at h
    obtain ⟨fetches, hfetches, rfl⟩ := exists_of_map h
    exact ⟨source, fetches, rfl, hfetches, rfl⟩

end Plan

end WorkflowPod.Compile
