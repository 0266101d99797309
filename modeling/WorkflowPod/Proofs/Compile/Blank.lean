import WorkflowPod.Proofs.Compile.Normal
import WorkflowPod.Proofs.Workflow.Blank

/-!
Compiling a spec with and without some of what is blank in it, function by function. Main statement:
the plan is the same, or the fault is.
-/
namespace WorkflowPod.Compile

open Manifest Workflow Package

section Package

variable {package package' : Workflow.Package} (h : package.Pruned package')

include h

theorem ofPackage_eq_of_pruned : Source.ofPackage package = Source.ofPackage package' :=
  Source.ofPackage_congr h.url.given_eq h.fromPath.given_eq h.fromConfigMap.given_eq

theorem fetchCommand_eq_of_pruned (source : Source) (credential : Bool) :
    fetchCommand source package credential = fetchCommand source package' credential := by
  simp only [fetchCommand, h.branch.given_eq, h.commitId.given_eq]

theorem packageMount_eq_of_pruned : packageMount package = packageMount package' := by
  simp only [packageMount, h.mount.given_eq]

theorem packageBase_eq_of_pruned (source : Source) :
    packageBase source package = packageBase source package' := by
  simp only [packageBase, packageMount_eq_of_pruned h]

theorem packagePath_eq_of_pruned (source : Source) :
    packagePath source package = packagePath source package' := by
  simp only [packagePath, packageBase_eq_of_pruned h, h.fromPath.given_eq]

theorem manifestWords_eq_of_pruned (source : Source) :
    manifestWords source package = manifestWords source package' := by
  simp only [manifestWords, packageBase_eq_of_pruned h, h.withManifest.given_eq]

end Package

theorem CredentialKey.of_pruned (key : CredentialKey) {b b' : Bucket} (h : b.Pruned b') :
    (key.of b).Pruned (key.of b') := by
  cases key with
  | accessKeyId => exact h.accessKeyId
  | secretAccessKey => exact h.secretAccessKey
  | endpoint => exact h.endpoint
  | bucket => exact h.bucket
  | region => exact h.region

theorem credentialVariables_eq_of_pruned {b b' : Bucket} (h : b.Pruned b') :
    credentialVariables b = credentialVariables b' := by
  have hvalue (key : CredentialKey) : given (key.of b).value = given (key.of b').value :=
    (key.of_pruned h).value.given_eq
  have hfrom (key : CredentialKey) : (key.of b).valueFrom = (key.of b').valueFrom :=
    (key.of_pruned h).valueFrom
  simp only [credentialVariables, isDoubled, Credential.isSet, CredentialKey.variableOf, hvalue,
    hfrom, h.dataset.given_eq]

section Spec

variable {spec spec' : Spec} (h : spec.Pruned spec')
  {package package' : Workflow.Package} (hpackage : package.Pruned package')

include h

theorem classify_eq_of_pruned : Source.classify spec = Source.classify spec' :=
  Source.classify_congr (ofPackage_eq_of_pruned h.package_getD) h.instanceName.given_eq

theorem bucketFetchContainer_eq_of_pruned (himage : spec.bucketFetchImage = spec'.bucketFetchImage)
    {b b' : Bucket} (hbucket : b.Pruned b') (environment : Operator.Environment) :
    bucketFetchContainer spec b environment = bucketFetchContainer spec' b' environment := by
  simp only [bucketFetchContainer, credentialVariables_eq_of_pruned hbucket, himage, h.inputs,
    h.data, Role.requirements_eq_of_pruned _ h.resources]

theorem monitorContainer_eq_of_pruned (working : Volume) (defaults : Operator.Defaults) :
    monitorContainer spec working defaults = monitorContainer spec' working defaults := by
  simp only [monitorContainer, h.env, Role.requirements_eq_of_pruned _ h.resources]

theorem volumes_eq_of_pruned (name : String) (source : Source) (working : Volume)
    (secret : Option String) :
    volumes name spec source working secret = volumes name spec' source working secret := by
  simp only [volumes, h.volumes, h.isSome_bucketInput]

include hpackage

theorem packageFetchContainer_eq_of_pruned (source : Source) (secret : Option String)
    (defaults : Operator.Defaults) (environment : Operator.Environment) :
    packageFetchContainer spec source package secret defaults environment =
      packageFetchContainer spec' source package' secret defaults environment := by
  simp only [packageFetchContainer, fetchCommand_eq_of_pruned hpackage,
    Role.requirements_eq_of_pruned _ h.resources]

theorem initContainers_eq_of_pruned (himage : spec.bucketFetchImage = spec'.bucketFetchImage)
    (source : Source) (secret : Option String) (defaults : Operator.Defaults)
    (environment : Operator.Environment) :
    initContainers spec source package secret defaults environment =
      initContainers spec' source package' secret defaults environment := by
  have hbucket := h.bucketInput
  unfold initContainers
  rw [packageFetchContainer_eq_of_pruned h hpackage]
  generalize spec.bucketInput = bucket?, spec'.bucketInput = bucket?' at hbucket ⊢
  cases hbucket with
  | none => rfl
  | some hbucket => simp only [bucketFetchContainer_eq_of_pruned h himage hbucket]

theorem launcherWords_eq_of_pruned (source : Source) :
    launcherWords spec source package = launcherWords spec' source package' := by
  simp only [launcherWords, h.debug, h.command.given_eq, h.inputs, h.variableFiles, h.data,
    h.additionalOptions, manifestWords_eq_of_pruned hpackage, packagePath_eq_of_pruned hpackage]

theorem launcherContainer_eq_of_pruned (himage : spec.image = spec'.image) (source : Source)
    (working : Volume) :
    launcherContainer spec source package working =
      launcherContainer spec' source package' working := by
  simp only [launcherContainer, himage, launcherWords_eq_of_pruned h hpackage, h.env,
    Role.requirements_eq_of_pruned _ h.resources, h.volumeMounts,
    packageMount_eq_of_pruned hpackage, h.isSome_bucketInput]

omit hpackage

theorem planOf_eq_of_pruned (himage : spec.image = spec'.image)
    (hworking : spec.workingVolume = spec'.workingVolume)
    (hfetch : spec.bucketFetchImage = spec'.bucketFetchImage) (workflow : Workflow)
    (source : Source) (defaults : Operator.Defaults) (environment : Operator.Environment) :
    planOf workflow spec source defaults environment =
      planOf workflow spec' source defaults environment := by
  have hpackage := h.package_getD
  unfold planOf
  rw [hworking]
  cases spec'.workingVolume with
  | none => rfl
  | some working =>
    simp only [hpackage.gitSecret.given_eq, initContainers_eq_of_pruned h hpackage hfetch,
      launcherContainer_eq_of_pruned h hpackage himage, monitorContainer_eq_of_pruned h,
      volumes_eq_of_pruned h, h.imagePullSecrets]

end Spec

/-- What has been filled in depends on no blanks. -/
theorem filled_normalized (spec : Spec) (defaults : Operator.Defaults) (kind : SourceKind) :
    (normalized spec defaults kind).image = orDefault spec.image defaults.launcherImage ∧
      (normalized spec defaults kind).workingVolume =
        some ((named spec.workingVolume).getD (defaultWorkingVolume defaults)) ∧
      (normalized spec defaults kind).bucketFetchImage =
        orDefault spec.bucketFetchImage defaults.bucketFetchImage := by
  unfold normalized
  cases h : named (spec.withDefaults defaults kind).inputDataVolume with
  | none =>
    rw [Spec.withoutInputVolume_of_none _ h]
    exact ⟨rfl, rfl, rfl⟩
  | some volume =>
    rw [Spec.withoutInputVolume_of_some _ h]
    exact ⟨rfl, rfl, rfl⟩

/-- Blanks that are taken away from a spec make no difference to the plan or to the fault. -/
theorem compile_pruned {workflow : Workflow} {spec' : Spec} (h : workflow.spec.Pruned spec')
    (defaults : Operator.Defaults) (environment : Operator.Environment) :
    compile { workflow with spec := spec' } defaults environment =
      compile workflow defaults environment := by
  refine (compile_congr (classify_eq_of_pruned h) fun source hsource => ?_).symm
  have hdropped (hpackage : spec'.package = none) : defaultSecret defaults source.kind = "" := by
    rw [classify_eq_of_pruned h] at hsource
    rw [Source.kind_of_classify hpackage hsource]
    rfl
  have hnormalized : (normalized workflow.spec defaults source.kind).Pruned
      (normalized spec' defaults source.kind) :=
    ((h.withDefaults defaults hdropped).withoutInputVolume).withAbsolutePaths
  obtain ⟨himage, hworking, hfetch⟩ := filled_normalized workflow.spec defaults source.kind
  obtain ⟨himage', hworking', hfetch'⟩ := filled_normalized spec' defaults source.kind
  refine planOf_eq_of_pruned hnormalized (himage.trans ?_) (hworking.trans ?_) (hfetch.trans ?_)
    workflow source defaults environment
  · rw [himage', orDefault_eq_of_pruned h.image]
  · rw [hworking', h.workingVolume.named_eq]
  · rw [hfetch', orDefault_eq_of_pruned h.bucketFetchImage]

/-- A workflow for an earlier run, where all else is blank. -/
def blankWorkflow : Workflow where
  metadata := { name := some "w" }
  spec :=
    { image := some ""
      package := some { url := some "", gitSecret := some "" }
      instanceName := some "run"
      command := some ""
      workingVolume := some { name := "" }
      inputDataVolume := some { name := "" }
      resources := some { launcher := some { cpu := some "" } }
      bucketInput := some { dataset := some "", region := { value := some "" } }
      bucketFetchImage := some "" }

theorem compile_pruned_blankWorkflow :
    let spec : Spec := { instanceName := some "run", bucketInput := some {} }
    blankWorkflow.spec.Pruned spec ∧
      compile { blankWorkflow with spec := spec } {} {} = compile blankWorkflow {} {} ∧
      (compile blankWorkflow {} {}).isOk := by
  intro spec
  have hpackage : Package.IsBlank { url := some "", gitSecret := some "" } :=
    { Package.pruned_empty with url := .dropped rfl, gitSecret := .dropped rfl }
  have hresources : Overrides.IsBlank { launcher := some { cpu := some "" } } :=
    ⟨.dropped ⟨.dropped rfl, .absent⟩, .absent, .absent⟩
  have hcredential : Credential.Pruned {} {} := ⟨.absent, rfl⟩
  have hbucket : Bucket.Pruned { dataset := some "", region := { value := some "" } } {} :=
    ⟨.dropped rfl, hcredential, hcredential, hcredential, hcredential, ⟨.dropped rfl, rfl⟩⟩
  have hpruned : blankWorkflow.spec.Pruned spec :=
    { image := .dropped rfl
      imagePullSecrets := rfl
      package := .dropped hpackage
      instanceName := .kept rfl
      debug := rfl
      command := .dropped rfl
      volumes := rfl
      volumeMounts := rfl
      workingVolume := .dropped rfl
      inputDataVolume := .dropped rfl
      inputs := rfl
      variableFiles := rfl
      data := rfl
      additionalOptions := rfl
      resources := .dropped hresources
      env := rfl
      bucketInput := .some hbucket
      bucketFetchImage := .dropped rfl }
  exact ⟨hpruned, compile_pruned hpruned {} {}, rfl⟩

end WorkflowPod.Compile
