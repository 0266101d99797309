import WorkflowPod.Proofs.Compile.Credentials

/-!
What the containers of a pod may use. Main statement: each is granted what the workflow sets for its
role or else the usual amounts, and what is set for one role makes no difference to the containers
of the others.
-/
namespace WorkflowPod

open Manifest

/-- A workflow with other amounts for its containers. -/
def Workflow.withResources (workflow : Workflow) (overrides : Option Workflow.Overrides) :
    Workflow :=
  { workflow with spec := { workflow.spec with resources := overrides } }

/-- The role of a container of a workflow pod, by its name. -/
def Workflow.Role.ofContainer? : String → Option Workflow.Role
  | "git-sync-package" | "s3-fetch" => some .fetch
  | "monitor-elaunch-container" => some .monitor
  | "elaunch-primary" => some .launcher
  | _ => none

/-- The containers of a plan, those that run before the others first. -/
def Plan.containers (plan : Plan) : List Container :=
  plan.initContainers ++ [plan.primary, plan.monitor]

def Plan.mapContainers (f : Container → Container) (plan : Plan) : Plan :=
  { plan with
    initContainers := plan.initContainers.map f
    primary := f plan.primary
    monitor := f plan.monitor }

def Manifest.Pod.mapContainers (f : Container → Container) (pod : Pod) : Pod :=
  { pod with
    spec := pod.spec.map fun spec =>
      { spec with
        containers := spec.containers.map f
        initContainers := spec.initContainers.map (·.map f) } }

/-- A pod with other resources for the containers of a role. -/
def Manifest.Pod.withResources (role : Workflow.Role) (granted : Requirements) (pod : Pod) : Pod :=
  pod.mapContainers fun c =>
    if Workflow.Role.ofContainer? c.name = some role then { c with resources := some granted }
    else c

theorem Plan.pod_mapContainers (f : Container → Container) (plan : Plan) :
    (plan.mapContainers f).pod = plan.pod.mapContainers f := by
  unfold pod Pod.mapContainers mapContainers
  cases plan.initContainers <;> rfl

theorem Plan.mapContainers_congr {f g : Container → Container} {plan : Plan}
    (h : ∀ c ∈ plan.containers, f c = g c) : plan.mapContainers f = plan.mapContainers g := by
  simp only [containers, List.forall_mem_append, List.forall_mem_cons] at h
  obtain ⟨hfetches, hprimary, hmonitor, -⟩ := h
  rw [mapContainers, mapContainers, List.map_congr_left hfetches, hprimary, hmonitor]

theorem Plan.eq_of_mem_of_mapContainers {f : Container → Container} {plan : Plan}
    (h : plan.mapContainers f = plan) {c : Container} (hc : c ∈ plan.containers) : f c = c := by
  simp only [containers, List.mem_append, List.mem_cons, List.not_mem_nil, or_false] at hc
  obtain hc | rfl | rfl := hc
  · have hfetches := (congrArg Plan.initContainers h).trans (List.map_id _).symm
    exact List.map_inj_left.1 hfetches c hc
  · exact congrArg Plan.primary h
  · exact congrArg Plan.monitor h

namespace Compile

open Workflow Package

/-- An amount: the one that is set, or the usual one if none is set or a blank. -/
def IsAmount (set? : Option String) (usual amount : String) : Prop :=
  (set? = some amount ∧ amount ≠ "") ∨ (¬Given set? ∧ amount = usual)

/-- Processor time and memory of a container and nothing else, each by itself, set aside in full. -/
def IsGranted (amounts : Option Amounts) (usualCpu usualMemory : String) (c : Container) : Prop :=
  ∃ granted : Dict String String, ∃ cpu memory,
    c.resources = some { limits := some granted, requests := some granted } ∧
    granted.entries = [("cpu", cpu), ("memory", memory)] ∧
    IsAmount (amounts.bind (·.cpu)) usualCpu cpu ∧
    IsAmount (amounts.bind (·.memory)) usualMemory memory

theorem isAmount_getD (set? : Option String) (usual : String) :
    IsAmount set? usual ((given set?).getD usual) := by
  cases h : given set? with
  | none =>
    refine .inr ⟨?_, rfl⟩
    rw [← isSome_given_iff, h]
    exact Bool.false_ne_true
  | some amount => exact .inl ⟨(Option.filter_eq_some_iff.1 h).1, ne_of_given h⟩

theorem entries_amounts (cpu memory : String) :
    (Dict.ofList [("cpu", cpu), ("memory", memory)]).entries =
      [("cpu", cpu), ("memory", memory)] := by
  have horder : compare "memory" "cpu" = .gt := by decide
  simp [Dict.ofList, Dict.insert, Dict.insertEntry, Dict.empty, horder]

theorem isGranted_of_requirements {role : Role} {overrides : Option Overrides} {c : Container}
    (h : c.resources = some (role.requirements overrides)) :
    IsGranted (overrides.bind role.override?) role.defaultCpu role.defaultMemory c := by
  have hmember (value : Amounts → Option String) (hvalue : value {} = none) :
      (overrides.bind role.override?).bind value =
        value ((overrides.bind role.override?).getD {}) := by
    cases overrides.bind role.override? with
    | none => exact hvalue.symm
    | some amounts => rfl
  refine ⟨_, _, _, h, entries_amounts _ _, ?_, ?_⟩
  · rw [hmember _ rfl]
    exact isAmount_getD _ _
  · rw [hmember _ rfl]
    exact isAmount_getD _ _

/-- A container with what its role is granted under other overrides. -/
def regranted (overrides : Option Overrides) (c : Container) : Container :=
  match Role.ofContainer? c.name with
  | some role => { c with resources := some (role.requirements overrides) }
  | none => c

theorem regranted_of_role {role : Role} {c : Container} (h : Role.ofContainer? c.name = some role)
    (overrides : Option Overrides) :
    regranted overrides c = { c with resources := some (role.requirements overrides) } := by
  rw [regranted, h]

section Overrides

variable (workflow : Workflow) (defaults : Operator.Defaults)
  (environment : Operator.Environment) (source : Source) (overrides : Option Overrides)

theorem normalized_withResources (kind : SourceKind) :
    normalized (workflow.withResources overrides).spec defaults kind =
      { normalized workflow.spec defaults kind with resources := overrides } := by
  rw [normalized_eq, normalized_eq]
  rfl

theorem packageFetch?_withResources :
    packageFetch? (workflow.withResources overrides) defaults environment source =
      (packageFetch? workflow defaults environment source).map (regranted overrides) := by
  unfold packageFetch? packageFetch
  rw [normalized_withResources]
  split <;> rfl

theorem bucketFetch_withResources (b : Bucket) :
    bucketFetch (workflow.withResources overrides) defaults environment source b =
      (bucketFetch workflow defaults environment source b).map (regranted overrides) := by
  unfold bucketFetch bucketFetchContainer
  rw [normalized_withResources]
  cases credentialVariables b <;> rfl

theorem fetchContainers_withResources :
    fetchContainers (workflow.withResources overrides) defaults environment source =
      (fetchContainers workflow defaults environment source).map
        (·.map (regranted overrides)) := by
  have hbucket : (workflow.withResources overrides).spec.bucketInput = workflow.spec.bucketInput :=
    rfl
  rw [fetchContainers_eq, fetchContainers_eq, hbucket, packageFetch?_withResources]
  cases workflow.spec.bucketInput with
  | none => cases packageFetch? workflow defaults environment source <;> rfl
  | some b =>
    simp only [bucketFetch_withResources]
    cases bucketFetch workflow defaults environment source b with
    | error fault => rfl
    | ok c => cases packageFetch? workflow defaults environment source <;> rfl

theorem planWith_withResources (fetches : List Container) :
    planWith (workflow.withResources overrides) defaults environment source
        (fetches.map (regranted overrides)) =
      (planWith workflow defaults environment source fetches).mapContainers
        (regranted overrides) := by
  unfold planWith
  rw [normalized_withResources]
  rfl

/-- Overrides change nothing but what the containers are granted. -/
theorem compile_withResources :
    compile (workflow.withResources overrides) defaults environment =
      (compile workflow defaults environment).map (·.mapContainers (regranted overrides)) := by
  have hclassify : Source.classify (workflow.withResources overrides).spec =
      Source.classify workflow.spec := rfl
  cases hsource : Source.classify workflow.spec with
  | error fault =>
    rw [compile_of_error hsource, compile_of_error (hclassify.trans hsource)]
    rfl
  | ok source =>
    rw [compile_eq_map defaults environment hsource,
      compile_eq_map defaults environment (hclassify.trans hsource), fetchContainers_withResources]
    cases fetchContainers workflow defaults environment source with
    | error fault => rfl
    | ok fetches =>
      exact congrArg Except.ok
        (planWith_withResources workflow defaults environment source overrides fetches)

end Overrides

section Plan

variable {workflow : Workflow} {defaults : Operator.Defaults}
  {environment : Operator.Environment} {plan : Plan}
  (h : compile workflow defaults environment = .ok plan)

include h

theorem role_of_mem_initContainers {c : Container} (hc : c ∈ plan.initContainers) :
    Role.ofContainer? c.name = some .fetch := by
  obtain ⟨source, fetches, -, hfetches, rfl⟩ := exists_planWith h
  obtain ⟨-, hname⟩ | ⟨hname, -⟩ := eq_of_mem_fetches hfetches hc <;> rw [hname] <;> rfl

theorem role_of_primary : Role.ofContainer? plan.primary.name = some .launcher := by
  obtain ⟨source, fetches, -, -, rfl⟩ := exists_planWith h
  rfl

theorem role_of_monitor : Role.ofContainer? plan.monitor.name = some .monitor := by
  obtain ⟨source, fetches, -, -, rfl⟩ := exists_planWith h
  rfl

theorem exists_role_of_mem {c : Container} (hc : c ∈ plan.containers) :
    ∃ role, Role.ofContainer? c.name = some role := by
  simp only [Plan.containers, List.mem_append, List.mem_cons, List.not_mem_nil, or_false] at hc
  obtain hc | rfl | rfl := hc
  · exact ⟨_, role_of_mem_initContainers h hc⟩
  · exact ⟨_, role_of_primary h⟩
  · exact ⟨_, role_of_monitor h⟩

/-- Under its own overrides a workflow is granted what it is granted. -/
theorem regranted_eq_self {c : Container} (hc : c ∈ plan.containers) :
    regranted workflow.spec.resources c = c := by
  have hsame := compile_withResources workflow defaults environment workflow.spec.resources
  have hworkflow : workflow.withResources workflow.spec.resources = workflow := rfl
  rw [hworkflow, h] at hsame
  exact Plan.eq_of_mem_of_mapContainers (Except.ok.inj hsame).symm hc

theorem isGranted_of_mem {role : Role} {c : Container} (hc : c ∈ plan.containers)
    (hrole : Role.ofContainer? c.name = some role) :
    IsGranted (workflow.spec.resources.bind role.override?) role.defaultCpu role.defaultMemory
      c := by
  have hsame := regranted_eq_self h hc
  rw [regranted_of_role hrole] at hsame
  exact isGranted_of_requirements (congrArg Container.resources hsame).symm

/-- Overrides that differ for one role make a difference to the containers of that role only. -/
theorem mapContainers_regranted {role : Role} {overrides : Option Overrides}
    (hothers : ∀ other ≠ role,
      overrides.bind other.override? = workflow.spec.resources.bind other.override?) :
    (plan.mapContainers (regranted overrides)).pod =
      plan.pod.withResources role (role.requirements overrides) := by
  rw [Manifest.Pod.withResources, ← Plan.pod_mapContainers]
  refine congrArg Plan.pod (Plan.mapContainers_congr fun c hc => ?_)
  obtain ⟨own, hown⟩ := exists_role_of_mem h hc
  rw [regranted_of_role hown]
  by_cases hrole : own = role
  · rw [hown, hrole, if_pos rfl]
  · have hrequirements : own.requirements overrides =
        own.requirements workflow.spec.resources := by
      rw [Role.requirements, hothers own hrole, Role.requirements]
    have hother : ¬some own = some role := fun heq => hrole (Option.some.inj heq)
    have hsame := regranted_eq_self h hc
    rw [regranted_of_role hown] at hsame
    rw [hown, if_neg hother, hrequirements, hsame]

end Plan

/-- Every container is granted what its role is given, or else the usual amounts. For other amounts
for one role the pod is the same but for what the containers of that role are granted. -/
theorem granted_by_role {workflow : Workflow} {defaults : Operator.Defaults}
    {environment : Operator.Environment} {plan : Plan}
    (h : compile workflow defaults environment = .ok plan) :
    ((∀ c ∈ plan.pod.initContainers, Role.ofContainer? c.name = some .fetch ∧
        IsGranted (workflow.spec.resources.bind (·.fetch)) "100m" "200Mi" c) ∧
      plan.pod.spec.map (·.containers) = some [plan.primary, plan.monitor] ∧
      (Role.ofContainer? plan.primary.name = some .launcher ∧
        IsGranted (workflow.spec.resources.bind (·.launcher)) "1000m" "500Mi" plan.primary) ∧
      Role.ofContainer? plan.monitor.name = some .monitor ∧
        IsGranted (workflow.spec.resources.bind (·.monitor)) "100m" "200Mi" plan.monitor) ∧
    ∀ (role : Role) (overrides : Option Overrides),
      (∀ other ≠ role,
        overrides.bind other.override? = workflow.spec.resources.bind other.override?) →
      ∃ plan' granted,
        compile (workflow.withResources overrides) defaults environment = .ok plan' ∧
          plan'.pod = plan.pod.withResources role granted := by
  have hprimary := role_of_primary h
  have hmonitor := role_of_monitor h
  refine ⟨⟨fun c hc => ?_, rfl, ⟨hprimary, ?_⟩, hmonitor, ?_⟩, fun role overrides hothers => ?_⟩
  · rw [Plan.initContainers_pod] at hc
    have hrole := role_of_mem_initContainers h hc
    exact ⟨hrole, isGranted_of_mem h (List.mem_append_left _ hc) hrole⟩
  · exact isGranted_of_mem h (by simp [Plan.containers]) hprimary
  · exact isGranted_of_mem h (by simp [Plan.containers]) hmonitor
  · have hplan' := compile_withResources workflow defaults environment overrides
    rw [h] at hplan'
    exact ⟨_, _, hplan', mapContainers_regranted h hothers⟩

/-- A workflow that asks for some memory to fetch with and leaves the processor time blank. -/
def fetchingOverrides : Overrides :=
  { fetch := some { cpu := some "", memory := some "1Gi" }, monitor := some {} }

theorem granted_by_role_fetchingWorkflow :
    let workflow := fetchingWorkflow.withResources (some fetchingOverrides)
    let launcher : Overrides := { fetchingOverrides with launcher := some { cpu := some "2" } }
    ∃ plan plan' granted, compile workflow {} {} = .ok plan ∧
      plan.initContainers.length = 2 ∧
      (∀ c ∈ plan.pod.initContainers,
        IsGranted (some { cpu := some "", memory := some "1Gi" }) "100m" "200Mi" c) ∧
      compile (workflow.withResources (some launcher)) {} {} = .ok plan' ∧
      plan'.pod = plan.pod.withResources .launcher granted ∧ plan'.pod ≠ plan.pod ∧
      IsGranted (some { cpu := some "2" }) "1000m" "500Mi" plan'.primary := by
  intro workflow launcher
  obtain ⟨plan, hplan⟩ : ∃ plan, compile workflow {} {} = .ok plan := ⟨_, rfl⟩
  obtain ⟨⟨hfetches, -⟩, hisolated⟩ := granted_by_role hplan
  have hothers : ∀ other ≠ Role.launcher,
      (some launcher).bind other.override? = workflow.spec.resources.bind other.override? := by
    intro other hother
    cases other with
    | launcher => exact absurd rfl hother
    | fetch | monitor => rfl
  obtain ⟨plan', granted, hplan', hpod⟩ := hisolated .launcher (some launcher) hothers
  obtain ⟨⟨-, -, ⟨-, hprimary⟩, -⟩, -⟩ := granted_by_role hplan'
  have hlength : plan.initContainers.length = 2 := by
    obtain rfl := Except.ok.inj hplan
    rfl
  have hdiffers : plan'.pod ≠ plan.pod := by
    obtain rfl := Except.ok.inj hplan
    obtain rfl := Except.ok.inj hplan'
    decide
  exact ⟨plan, plan', granted, hplan, hlength, fun c hc => (hfetches c hc).2, hplan', hpod,
    hdiffers, hprimary⟩

end Compile

end WorkflowPod
