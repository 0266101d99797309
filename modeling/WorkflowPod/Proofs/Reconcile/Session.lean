import WorkflowPod.Proofs.Except
import WorkflowPod.Proofs.Plan

/-!
What a reconcile asks a cluster to do: after it has read the stored defaults it creates nothing but
the two objects of the plan it has compiled with them.
-/
namespace WorkflowPod

open Cluster Manifest

namespace Cluster.Session

variable {α : Type}

/-- Sessions that create nothing but what is their `own`, and to which two config maps with the same
document are the same. -/
inductive Confined (own : Resource → Key → Json → Prop) : Session α → Prop where
  | done (result : α) : Confined own (.done result)
  | read {key : Key} {next : Reply → Session α} (hnext : ∀ reply, Confined own (next reply))
      (hsame : ∀ reply reply', Reconcile.storedDocument reply = Reconcile.storedDocument reply' →
        next reply = next reply') :
      Confined own (.ask (.read key) next)
  | create {resource : Resource} {key : Key} {object : Json} {next : Reply → Session α}
      (hown : own resource key object) (hnext : ∀ reply, Confined own (next reply)) :
      Confined own (.ask (.create resource key object) next)
  | publish {event : Event} {next : Reply → Session α}
      (hnext : ∀ reply, Confined own (next reply)) :
      Confined own (.ask (.publish event) next)

namespace Confined

variable {own : Resource → Key → Json → Prop} {session : Session α}

theorem mono (h : session.Confined own) {own' : Resource → Key → Json → Prop}
    (hown : ∀ resource key object, own resource key object → own' resource key object) :
    session.Confined own' := by
  induction h with
  | done result => exact .done result
  | read _ hsame ih => exact .read ih hsame
  | create hcreate _ ih => exact .create (hown _ _ _ hcreate) ih
  | publish _ ih => exact .publish ih

/-- What every kept object of a session's own preserves, a whole run preserves, whatever fails. -/
theorem run_invariant (h : session.Confined own) {P : Store → Prop}
    (hoffer : ∀ store resource key object, own resource key object → P store →
      P (store.offer resource key object))
    (faults : Faults) {store : Store} (hstore : P store) :
    P (session.run (Store.serveFaulty faults) store).store := by
  induction h generalizing store with
  | done => exact hstore
  | @read key next _ _ ih =>
    rw [run_ask_store]
    exact ih _ (by rwa [Store.serveFaulty_read_store])
  | @create resource key object next hown _ ih =>
    rw [run_ask_store]
    apply ih
    rcases store.serveFaulty_cases faults (.create resource key object) with h | ⟨reply, h⟩
    · rw [h, Store.serve_create]
      exact hoffer store resource key object hown hstore
    · rwa [h]
  | @publish event next _ ih =>
    rw [run_ask_store]
    apply ih
    rcases store.serveFaulty_cases faults (.publish event) with h | ⟨reply, h⟩
    · rw [h]
      exact hstore
    · rwa [h]

end Confined

end Cluster.Session

theorem compile_name {workflow : Workflow} {defaults : Operator.Defaults}
    {environment : Operator.Environment} {plan : Plan}
    (h : compile workflow defaults environment = .ok plan) : plan.name = workflow.name := by
  unfold compile at h
  obtain ⟨source, -, h⟩ := exists_of_bind h
  unfold Compile.planOf at h
  split at h
  · obtain ⟨fetches, -, ⟨⟩⟩ := exists_of_bind h
    rfl
  · cases h

namespace Reconcile

/-- A reconcile by what its plan depends on: the setting, the workflow and the document it read. -/
structure Attempt where
  setting : Setting
  workflow : Workflow
  document : Option String

namespace Attempt

/-- The plan an attempt compiles. -/
def plan (attempt : Attempt) : Except SpecFault Plan :=
  compile attempt.workflow (.resolve attempt.setting.environment attempt.document)
    attempt.setting.environment

/-- The objects an attempt creates. -/
def Creates (attempt : Attempt) (resource : Resource) (key : Key) (object : Json) : Prop :=
  ∃ space plan, attempt.workflow.metadata.namespaceName = some space ∧ attempt.plan = .ok plan ∧
    key = Plan.objectKey space attempt.workflow.name resource ∧ object = plan.object resource

/-- The attempt a reconcile makes where its requests are answered by `serve`. -/
def under (serve : Store → Request → Store × Reply) (setting : Setting) (workflow : Workflow)
    (store : Store) : Attempt where
  setting := setting
  workflow := workflow
  document := storedDocument (serve store (.read
    ⟨workflow.metadata.namespaceName.getD "", setting.environment.defaultsName⟩)).2

theorem under_eq {setting : Setting} {workflow : Workflow} {space : String}
    (hspace : workflow.metadata.namespaceName = some space) {faults : Faults} {store : Store}
    (hread : faults (.read ⟨space, setting.environment.defaultsName⟩) = none) :
    under (Store.serveFaulty faults) setting workflow store =
      ⟨setting, workflow, documentIn store ⟨space, setting.environment.defaultsName⟩⟩ := by
  rw [under, hspace, Option.getD_some, Store.serveFaulty, hread]
  rfl

end Attempt

variable {setting : Setting} {workflow : Workflow} {space : String}

theorem createPod_eq (setting : Setting) (workflow : Workflow) (space : String) (plan : Plan) :
    createPod setting workflow space plan =
      .ask (plan.request space .pods) fun reply =>
        match reply.created Pod.codec with
        | .error fault => .done (.error (.cluster fault))
        | .ok false => .done (.ok .awaitChange)
        | .ok true => announce (podCreated setting workflow space plan.name) (.ok .awaitChange) :=
  rfl

theorem createObjects_eq (setting : Setting) (workflow : Workflow) (space : String) (plan : Plan) :
    createObjects setting workflow space plan =
      .ask (plan.request space .configMaps) fun reply =>
        match reply.created ConfigMap.codec with
        | .error fault => .done (.error (.cluster fault))
        | .ok _ => createPod setting workflow space plan :=
  rfl

theorem compileAndCreate_eq (setting : Setting) (workflow : Workflow) (space : String)
    (reply : Reply) :
    compileAndCreate setting workflow space reply =
      match (Attempt.mk setting workflow (storedDocument reply)).plan with
      | .error fault => announce (compilationFailed setting workflow fault) (.error (.spec fault))
      | .ok plan => createObjects setting workflow space plan :=
  rfl

section Confined

variable {own : Resource → Key → Json → Prop}

theorem announce_confined (event : Event) (outcome : Outcome) :
    (announce event outcome).Confined own :=
  .publish fun _ => .done outcome

theorem createPod_confined {plan : Plan}
    (hpod : own .pods (Plan.objectKey space plan.name .pods) (plan.object .pods)) :
    (createPod setting workflow space plan).Confined own := by
  refine .create hpod fun reply => ?_
  split
  · exact .done _
  · exact .done _
  · exact announce_confined _ _

theorem createObjects_confined {plan : Plan}
    (hplan : ∀ resource, own resource (Plan.objectKey space plan.name resource)
      (plan.object resource)) :
    (createObjects setting workflow space plan).Confined own := by
  refine .create (hplan .configMaps) fun reply => ?_
  split
  · exact .done _
  · exact createPod_confined (hplan .pods)

end Confined

theorem compileAndCreate_confined (hspace : workflow.metadata.namespaceName = some space)
    (reply : Reply) :
    (compileAndCreate setting workflow space reply).Confined
      (Attempt.mk setting workflow (storedDocument reply)).Creates := by
  rw [compileAndCreate_eq]
  cases hplan : (Attempt.mk setting workflow (storedDocument reply)).plan with
  | error fault => exact announce_confined _ _
  | ok plan =>
    have hname : plan.name = workflow.name := compile_name hplan
    exact createObjects_confined fun resource => ⟨space, plan, hspace, hplan, by rw [hname], rfl⟩

/-- Whatever a reconcile reads, it creates objects of one workflow's plans. -/
theorem reconcile_confined (setting : Setting) (workflow : Workflow) :
    (reconcile setting workflow).Confined fun resource key object =>
      ∃ document, (Attempt.mk setting workflow document).Creates resource key object := by
  unfold reconcile
  split
  · exact .done _
  · rename_i space hspace
    split
    · exact .done _
    · refine .read (fun reply => ?_) fun reply reply' h => ?_
      · exact (compileAndCreate_confined hspace reply).mono fun _ _ _ h => ⟨_, h⟩
      · rw [compileAndCreate, compileAndCreate, h]

/-- What every kept object of an attempt preserves, the whole reconcile preserves. -/
theorem reconcile_invariant {P : Store → Prop} {faults : Faults} {store : Store}
    (hoffer : ∀ store' resource key object,
      (Attempt.under (Store.serveFaulty faults) setting workflow store).Creates
        resource key object → P store' → P (store'.offer resource key object))
    (hstore : P store) :
    P ((reconcile setting workflow).run (Store.serveFaulty faults) store).store := by
  unfold reconcile
  split
  · exact hstore
  · rename_i space hspace
    split
    · exact hstore
    · rw [Session.run_ask_store, Store.serveFaulty_read_store]
      refine (compileAndCreate_confined hspace _).run_invariant ?_ faults hstore
      simpa only [Attempt.under, hspace, Option.getD_some] using hoffer

section Store

variable {plan : Plan} {faults : Faults} {store : Store}

theorem createPod_run_store (setting : Setting) (workflow : Workflow) (space : String)
    (plan : Plan) (faults : Faults) (store : Store) :
    ((createPod setting workflow space plan).run (Store.serveFaulty faults) store).store =
      (store.serveFaulty faults (plan.request space .pods)).1 := by
  rw [createPod_eq, Session.run_ask_store]
  split
  · rfl
  · rfl
  · rw [announce, Session.run_ask_store]
    rcases Store.serveFaulty_cases faults _ (.publish (podCreated setting workflow space plan.name))
      with h | ⟨reply, h⟩
    · rw [h]
      rfl
    · rw [h]
      rfl

theorem createObjects_run_store (hmap : faults (plan.request space .configMaps) = none) :
    ((createObjects setting workflow space plan).run (Store.serveFaulty faults) store).store =
      ((plan.offer space .configMaps store).serveFaulty faults (plan.request space .pods)).1 := by
  have hserve : store.serveFaulty faults (plan.request space .configMaps) =
      store.serve (plan.request space .configMaps) := by
    rw [Store.serveFaulty, hmap]
  have hstore : (store.serveFaulty faults (plan.request space .configMaps)).1 =
      plan.offer space .configMaps store := by
    rw [hserve, Plan.request, Store.serve_create]
    rfl
  have hcreated :
      (store.serveFaulty faults (plan.request space .configMaps)).2.created ConfigMap.codec =
        .ok (store.get? .configMaps (Plan.objectKey space plan.name .configMaps)).isNone := by
    rw [hserve]
    exact plan.createdAs_serve .configMaps store _
  rw [createObjects_eq, Session.run_ask_store, hcreated, hstore]
  exact createPod_run_store ..

theorem reconcile_run_store (hspace : workflow.metadata.namespaceName = some space)
    (hunsettled : isSettled workflow = false)
    (hplan : (Attempt.under (Store.serveFaulty faults) setting workflow store).plan = .ok plan)
    (hmap : faults (plan.request space .configMaps) = none) :
    ((reconcile setting workflow).run (Store.serveFaulty faults) store).store =
      ((plan.offer space .configMaps store).serveFaulty faults (plan.request space .pods)).1 := by
  simp only [Attempt.under, hspace, Option.getD_some] at hplan
  simp only [reconcile, hspace, hunsettled, Bool.false_eq_true, if_false]
  rw [Session.run_ask_store, compileAndCreate_eq, hplan, Store.serveFaulty_read_store]
  exact createObjects_run_store hmap

end Store

/-- Requests to create an object of a resource are refused. -/
def refusing (resource : Resource) : Faults
  | .create resource' _ _ => if resource' = resource then some (.refusal 500 "injected") else none
  | .read _ | .publish _ => none

/-- A workflow that asks for no more than it must. -/
def plainWorkflow (name : String) : Workflow where
  metadata := { name := some name, namespaceName := some "space" }
  spec := { instanceName := some "instance" }

/-- A setting where workflows are launched from an image. -/
def plainSetting (image : String) : Setting where
  environment := { launcherImage := image }
  reporter := ⟨controllerName, controllerName⟩

/-- The attempt to reconcile a plain workflow where there are no stored defaults. -/
def plainAttempt (image name : String) : Attempt := ⟨plainSetting image, plainWorkflow name, none⟩

theorem exists_plan_plainAttempt (image name : String) :
    ∃ plan, (plainAttempt image name).plan = .ok plan := ⟨_, rfl⟩

end Reconcile

end WorkflowPod
