import WorkflowPod.Proofs.Compile.Outcome

/-!
Which workflows cannot be compiled, and why. Main statement: the source and the credentials of the
bucket decide, and nothing else.
-/
namespace WorkflowPod.Compile

open Manifest Workflow Package

/-- The first key, in the order of the credentials, for which `p` holds. -/
def IsFirst (p : CredentialKey → Prop) (key : CredentialKey) : Prop :=
  p key ∧ ∃ before after, CredentialKey.all = before ++ key :: after ∧ ∀ other ∈ before, ¬p other

/-- A text is there and not empty. -/
def Given (value : Option String) : Prop := ∃ text, value = some text ∧ text ≠ ""

/-- What is wrong with the credentials of a bucket. -/
inductive BucketFault (b : Bucket) : SpecFault → Prop where
  /-- A credential has both a value and a source of one. -/
  | doubled {key : CredentialKey}
      (first : IsFirst (fun key => Given (key.of b).value ∧ (key.of b).valueFrom ≠ none) key) :
      BucketFault b
        (.conflict ("spec.s3BucketInput." ++ key.field ++ " sets both value and valueFrom"))
  /-- No credential has both, but one is given beside a secret with all of them. -/
  | besideDataset {key : CredentialKey}
      (single : ∀ key : CredentialKey, ¬(Given (key.of b).value ∧ (key.of b).valueFrom ≠ none))
      (dataset : Given b.dataset)
      (first : IsFirst (fun key => Given (key.of b).value ∨ (key.of b).valueFrom ≠ none) key) :
      BucketFault b
        (.conflict ("spec.s3BucketInput.dataset and spec.s3BucketInput." ++ key.field ++
          " are mutually exclusive"))

theorem isSome_given_iff (value : Option String) : (given value).isSome ↔ Given value := by
  simp [given, Given, Option.isSome_filter, Option.any_eq_true]

theorem isDoubled_iff (c : Credential) :
    isDoubled c ↔ Given c.value ∧ c.valueFrom ≠ none := by
  rw [isDoubled, Bool.and_eq_true, isSome_given_iff, Option.isSome_iff_ne_none]

theorem isSet_iff (c : Credential) : c.isSet ↔ Given c.value ∨ c.valueFrom ≠ none := by
  rw [Credential.isSet, Bool.or_eq_true, isSome_given_iff, Option.isSome_iff_ne_none]

theorem CredentialKey.mem_all (key : CredentialKey) : key ∈ all := by
  cases key <;> decide

/-- Looking through the credentials finds the first. -/
theorem find?_all_eq_some_iff {p : CredentialKey → Bool} {q : CredentialKey → Prop}
    (h : ∀ key, p key ↔ q key) {key : CredentialKey} :
    CredentialKey.all.find? p = some key ↔ IsFirst q key := by
  rw [List.find?_eq_some_iff_append, IsFirst, h]
  simp [← h]

theorem find?_all_eq_none_iff {p : CredentialKey → Bool} {q : CredentialKey → Prop}
    (h : ∀ key, p key ↔ q key) : CredentialKey.all.find? p = none ↔ ∀ key, ¬q key := by
  simp [← h, CredentialKey.mem_all]

theorem credentialVariables_eq_error_iff (b : Bucket) (fault : SpecFault) :
    credentialVariables b = .error fault ↔ BucketFault b fault := by
  have hdoubled (key : CredentialKey) := isDoubled_iff (key.of b)
  have hset (key : CredentialKey) := isSet_iff (key.of b)
  unfold credentialVariables
  constructor
  · intro h
    split at h
    · rename_i key hfind
      cases h
      exact .doubled ((find?_all_eq_some_iff hdoubled).1 hfind)
    · rename_i hnone
      split at h
      · cases h
      · rename_i secret hsecret
        split at h
        · rename_i key hfind
          cases h
          exact .besideDataset ((find?_all_eq_none_iff hdoubled).1 hnone)
            ((isSome_given_iff _).1 (by simp [hsecret])) ((find?_all_eq_some_iff hset).1 hfind)
        · cases h
  · rintro (⟨hfirst⟩ | ⟨hsingle, hdataset, hfirst⟩)
    · rw [(find?_all_eq_some_iff hdoubled).2 hfirst]
    · obtain ⟨secret, hsecret⟩ := Option.isSome_iff_exists.1 ((isSome_given_iff _).2 hdataset)
      rw [(find?_all_eq_none_iff hdoubled).2 hsingle, hsecret]
      dsimp only
      rw [(find?_all_eq_some_iff hset).2 hfirst]

theorem bucketFetchContainer_eq_error_iff {spec : Spec} {b : Bucket}
    {environment : Operator.Environment} {fault : SpecFault} :
    bucketFetchContainer spec b environment = .error fault ↔ BucketFault b fault := by
  rw [← credentialVariables_eq_error_iff, bucketFetchContainer]
  cases credentialVariables b <;> simp [bind, Except.bind, pure, Except.pure]

theorem needsFetch_iff (source : Source) :
    source.needsFetch ↔ source.kind ∈ [.https, .ssh, .configMap] := by
  cases source <;> simp [Source.needsFetch, Source.kind]

/-- A source that is fetched comes with something to do. -/
theorem fetchCommand_args_ne_nil {source : Source} (h : source.needsFetch)
    (package : Workflow.Package) (credential : Bool) :
    (fetchCommand source package credential).args ≠ [] := by
  cases source with
  | https | configMap => exact List.cons_ne_nil _ _
  | ssh url => exact List.append_ne_nil_of_right_ne_nil _ (List.cons_ne_nil _ _)
  | volumePath | earlierRun => cases h

section Fetch

variable (workflow : Workflow) (defaults : Operator.Defaults)
  (environment : Operator.Environment) (source : Source)

/-- The container that fetches the package of a workflow. -/
def packageFetch : Container :=
  let spec := normalized workflow.spec defaults source.kind
  packageFetchContainer spec source (spec.package.getD {})
    (effectiveSecret workflow.spec defaults source.kind) defaults environment

/-- It is there if the source is fetched. -/
def packageFetch? : Option Container :=
  if source.needsFetch then some (packageFetch workflow defaults environment source) else none

/-- The container that fetches the files of a workflow from a bucket. -/
def bucketFetch (b : Bucket) : Except SpecFault Container :=
  bucketFetchContainer (normalized workflow.spec defaults source.kind) b environment

/-- The containers that fetch, by source and bucket. -/
theorem fetchContainers_eq :
    fetchContainers workflow defaults environment source =
      match workflow.spec.bucketInput with
      | none => .ok (packageFetch? workflow defaults environment source).toList
      | some b => (bucketFetch workflow defaults environment source b).map
          ((packageFetch? workflow defaults environment source).toList ++ [·]) := by
  have hpackage : (if source.needsFetch then
      [packageFetch workflow defaults environment source] else []) =
        (packageFetch? workflow defaults environment source).toList := by
    unfold packageFetch?
    split <;> rfl
  have hbucket := bucketInput_normalized workflow.spec defaults source.kind
  rw [← hpackage]
  unfold fetchContainers initContainers
  dsimp only
  rw [hbucket]
  cases workflow.spec.bucketInput <;> rfl

theorem fetchContainers_eq_error_iff (fault : SpecFault) :
    fetchContainers workflow defaults environment source = .error fault ↔
      ∃ b ∈ workflow.spec.bucketInput, BucketFault b fault := by
  rw [fetchContainers_eq]
  cases workflow.spec.bucketInput with
  | none => simp
  | some b =>
    have hfault : bucketFetch workflow defaults environment source b = .error fault ↔
        BucketFault b fault := bucketFetchContainer_eq_error_iff
    simp only [Option.mem_def, Option.some.injEq, exists_eq_left', ← hfault]
    cases bucketFetch workflow defaults environment source b <;> simp [Except.map]

variable {workflow defaults environment source}

theorem isSome_packageFetch?_iff :
    (packageFetch? workflow defaults environment source).isSome ↔
      source.kind ∈ [.https, .ssh, .configMap] := by
  rw [← needsFetch_iff, packageFetch?]
  split <;> simp_all

/-- It always has something to do. -/
theorem eq_of_mem_packageFetch? {c : Container}
    (h : c ∈ packageFetch? workflow defaults environment source) :
    c = packageFetch workflow defaults environment source ∧ c.args ≠ some [] := by
  obtain ⟨hneeds, hc⟩ := Option.ite_none_right_eq_some.1 h
  obtain rfl := Option.some.inj hc
  exact ⟨rfl, fun hargs => fetchCommand_args_ne_nil hneeds _ _ (Option.some.inj hargs)⟩

/-- If the containers can be made, they are one for the package, where there is something to fetch,
and one for the bucket, where there is one. -/
theorem exists_eq_of_fetchContainers {fetches : List Container}
    (h : fetchContainers workflow defaults environment source = .ok fetches) :
    ∃ forBucket : Option Container,
      fetches = (packageFetch? workflow defaults environment source).toList ++ forBucket.toList ∧
      (forBucket.isSome ↔ workflow.spec.bucketInput.isSome) ∧
      ∀ c ∈ forBucket, ∃ b ∈ workflow.spec.bucketInput,
        bucketFetch workflow defaults environment source b = .ok c := by
  rw [fetchContainers_eq] at h
  cases hbucket : workflow.spec.bucketInput with
  | none =>
    rw [hbucket] at h
    cases h
    exact ⟨none, by simp, by simp, by simp⟩
  | some b =>
    rw [hbucket] at h
    obtain ⟨c, hc, rfl⟩ := exists_of_map h
    exact ⟨some c, rfl, by simp, by simpa using hc⟩

end Fetch

/-- Two specs have the same settings for the source and the bucket. -/
structure AgreesOnSource (spec spec' : Spec) : Prop where
  url : (spec.package.getD {}).url = (spec'.package.getD {}).url
  fromPath : (spec.package.getD {}).fromPath = (spec'.package.getD {}).fromPath
  fromConfigMap : (spec.package.getD {}).fromConfigMap = (spec'.package.getD {}).fromConfigMap
  instanceName : spec.instanceName = spec'.instanceName
  bucketInput : spec.bucketInput = spec'.bucketInput

theorem AgreesOnSource.classify_eq {spec spec' : Spec} (h : AgreesOnSource spec spec') :
    Source.classify spec = Source.classify spec' :=
  Source.classify_congr
    (Source.ofPackage_congr (congrArg given h.url) (congrArg given h.fromPath)
      (congrArg given h.fromConfigMap))
    (congrArg given h.instanceName)

/-- Why a spec cannot be compiled: it has no one source, or else it is wrong about its bucket. -/
inductive SpecFails (spec : Spec) (fault : SpecFault) : Prop where
  | source (classify : Source.classify spec = .error fault)
  | bucket {source : Source} {b : Bucket} (classify : Source.classify spec = .ok source)
      (bucketInput : spec.bucketInput = some b) (credentials : BucketFault b fault)

theorem AgreesOnSource.specFails_iff {spec spec' : Spec} (h : AgreesOnSource spec spec')
    (fault : SpecFault) : SpecFails spec fault ↔ SpecFails spec' fault := by
  constructor
  · rintro (hsource | ⟨hsource, hbucket, hfault⟩)
    · exact .source (h.classify_eq ▸ hsource)
    · exact .bucket (h.classify_eq ▸ hsource) (h.bucketInput ▸ hbucket) hfault
  · rintro (hsource | ⟨hsource, hbucket, hfault⟩)
    · exact .source (h.classify_eq ▸ hsource)
    · exact .bucket (h.classify_eq ▸ hsource) (h.bucketInput ▸ hbucket) hfault

theorem compile_eq_error_iff (workflow : Workflow) (defaults : Operator.Defaults)
    (environment : Operator.Environment) (fault : SpecFault) :
    compile workflow defaults environment = .error fault ↔ SpecFails workflow.spec fault := by
  cases hsource : Source.classify workflow.spec with
  | error fault' =>
    rw [compile_of_error hsource]
    constructor
    · rintro ⟨⟩
      exact .source hsource
    · rintro (hsource' | ⟨hsource', -, -⟩)
      · cases hsource.symm.trans hsource'
        rfl
      · cases hsource.symm.trans hsource'
  | ok source =>
    have hfetch := fetchContainers_eq_error_iff workflow defaults environment source fault
    have hcompile : compile workflow defaults environment = .error fault ↔
        fetchContainers workflow defaults environment source = .error fault := by
      rw [compile_eq_map defaults environment hsource]
      cases fetchContainers workflow defaults environment source <;> simp [Except.map]
    rw [hcompile, hfetch]
    constructor
    · rintro ⟨b, hbucket, hfault⟩
      exact .bucket hsource hbucket hfault
    · rintro (hsource' | ⟨-, hbucket, hfault⟩)
      · cases hsource.symm.trans hsource'
      · exact ⟨_, hbucket, hfault⟩

/-- Of a spec nothing but its source can be missing. -/
theorem SpecFails.reason_eq {spec : Spec} {reason : String}
    (h : SpecFails spec (.incomplete reason)) :
    reason = "workflow does not have a populated spec.package or spec.instance" := by
  rcases h with h | ⟨-, -, hfault⟩
  · exact Source.reason_of_classify h
  · cases hfault

/-- What decides whether and why a workflow cannot be compiled is its source, then its bucket. The
containers that fetch are there for a source that is fetched and for a bucket, in this order. -/
theorem compile_decided_by_source_and_bucket (workflow : Workflow) (defaults : Operator.Defaults)
    (environment : Operator.Environment) :
    (∀ fault, compile workflow defaults environment = .error fault ↔
      SpecFails workflow.spec fault) ∧
    (∀ workflow' defaults' environment', AgreesOnSource workflow.spec workflow'.spec →
      ∀ fault, compile workflow' defaults' environment' = .error fault ↔
        compile workflow defaults environment = .error fault) ∧
    compile workflow defaults environment ≠ .error (.incomplete "spec.workingVolume is not set") ∧
    ∀ plan, compile workflow defaults environment = .ok plan →
      ∃ source, Source.classify workflow.spec = .ok source ∧
        ∃ forPackage forBucket : Option Container,
          plan.initContainers = forPackage.toList ++ forBucket.toList ∧
          (forPackage.isSome ↔ source.kind ∈ [.https, .ssh, .configMap]) ∧
          (∀ c ∈ forPackage, c = packageFetch workflow defaults environment source ∧
            c.args ≠ some []) ∧
          (forBucket.isSome ↔ workflow.spec.bucketInput.isSome) ∧
          ∀ c ∈ forBucket, ∃ b ∈ workflow.spec.bucketInput,
            bucketFetch workflow defaults environment source b = .ok c := by
  refine ⟨compile_eq_error_iff workflow defaults environment, ?_, ?_, ?_⟩
  · intro workflow' defaults' environment' hagrees fault
    rw [compile_eq_error_iff, compile_eq_error_iff, hagrees.specFails_iff]
  · rw [ne_eq, compile_eq_error_iff]
    intro hfails
    exact absurd hfails.reason_eq (by decide)
  · intro plan hplan
    obtain ⟨source, fetches, hsource, hfetches, rfl⟩ := exists_planWith hplan
    obtain ⟨forBucket, hlist, hbucket, hmade⟩ := exists_eq_of_fetchContainers hfetches
    exact ⟨source, hsource, packageFetch? workflow defaults environment source, forBucket, hlist,
      isSome_packageFetch?_iff, fun c => eq_of_mem_packageFetch?, hbucket, hmade⟩

/-- A workflow with something to fetch from a repository and from a bucket. -/
def fetchingWorkflow : Workflow where
  metadata := { name := some "w" }
  spec :=
    { package := some { url := some "git@host:repo.git" }
      workingVolume := some { name := "" }
      bucketInput := some { bucket := { value := some "files" } } }

theorem compile_decided_fetchingWorkflow :
    let debugged : Workflow :=
      { fetchingWorkflow with spec := { fetchingWorkflow.spec with debug := true } }
    (∃ plan, compile fetchingWorkflow {} {} = .ok plan ∧ plan.initContainers.length = 2) ∧
      AgreesOnSource fetchingWorkflow.spec debugged.spec ∧
      ∀ fault, compile debugged { tokenSecret := "token" } { userId := 1 } ≠ .error fault := by
  intro debugged
  obtain ⟨-, hagree, -, hplans⟩ := compile_decided_by_source_and_bucket fetchingWorkflow {} {}
  have hagrees : AgreesOnSource fetchingWorkflow.spec debugged.spec := ⟨rfl, rfl, rfl, rfl, rfl⟩
  obtain ⟨plan, hplan⟩ : ∃ plan, compile fetchingWorkflow {} {} = .ok plan := ⟨_, rfl⟩
  obtain ⟨source, hsource, forPackage, forBucket, hlist, hpackage, -, hbucket, -⟩ :=
    hplans plan hplan
  obtain rfl : Source.ssh "git@host:repo.git" = source :=
    Except.ok.inj ((show Source.classify fetchingWorkflow.spec = _ by decide).symm.trans hsource)
  obtain ⟨c, rfl⟩ := Option.isSome_iff_exists.1 (hpackage.2 (by decide))
  obtain ⟨c', rfl⟩ := Option.isSome_iff_exists.1 (hbucket.2 rfl)
  refine ⟨⟨plan, hplan, by rw [hlist]; rfl⟩, hagrees, fun fault hfault => ?_⟩
  rw [hagree debugged _ _ hagrees, hplan] at hfault
  cases hfault

end WorkflowPod.Compile
