import Mathlib.Logic.Function.Iterate
import WorkflowPod.Proofs.Reconcile.Session

/-!
Trying again. Whatever fails in any number of attempts to reconcile a workflow, an attempt without
failures leaves what it would have left at the start, and those after it find nothing to do.
-/
namespace WorkflowPod

open Cluster Manifest

/-- The events among the requests of a run. -/
def Cluster.Run.events {α : Type} (run : Run α) : List Event :=
  run.exchanges.filterMap fun exchange =>
    match exchange.request with
    | .publish event => some event
    | .read _ | .create .. => none

namespace Plan

variable (plan : Plan) (space : String) (store : Store)

/-- The store with both objects of a plan, each unless there is one under its key. -/
def provide : Store := plan.offer space .pods (plan.offer space .configMaps store)

theorem provide_offer (resource : Resource) :
    plan.provide space (plan.offer space resource store) = plan.provide space store := by
  cases resource with
  | configMaps => rw [provide, offer, offer, offer, Store.offer_offer, provide, offer, offer]
  | pods =>
    rw [provide, offer, offer, offer, Store.offer_comm _ (by simp), Store.offer_offer, provide,
      offer, offer, Store.offer_comm _ (by simp)]

theorem provide_provide :
    plan.provide space (plan.provide space store) = plan.provide space store :=
  (plan.provide_offer space _ .pods).trans (plan.provide_offer space store .configMaps)

theorem isSome_get?_provide :
    ((plan.provide space store).get? .pods (objectKey space plan.name .pods)).isSome := by
  rw [provide, offer, Store.get?_offer, if_pos ⟨rfl, rfl⟩]
  cases Store.get? _ Resource.pods _ <;> rfl

end Plan

namespace Reconcile

theorem documentIn_provide (store : Store) (space : String) (plan : Plan) (key : Key) :
    documentIn (plan.provide space store) key = documentIn store key := by
  rw [Plan.provide, Plan.offer, documentIn_offer, Plan.offer, documentIn_offer]

variable {setting : Setting} {workflow : Workflow} {space : String} {plan : Plan} {store : Store}

theorem createPod_run_of_isSome
    (hpod : (store.get? .pods (Plan.objectKey space plan.name .pods)).isSome) :
    ((createPod setting workflow space plan).run Store.serve store).events = [] ∧
      ((createPod setting workflow space plan).run Store.serve store).result =
        .ok .awaitChange := by
  have hcreated : (store.serve (plan.request space .pods)).2.created Pod.codec = .ok false := by
    have h := plan.createdAs_serve .pods store (Plan.objectKey space plan.name .pods)
    rwa [Option.isNone_eq_false_iff.2 hpod] at h
  rw [createPod_eq, Run.events, Session.run_ask_exchanges, Session.run_ask_result, hcreated]
  exact ⟨rfl, rfl⟩

theorem createObjects_run_of_isSome
    (hpod : (store.get? .pods (Plan.objectKey space plan.name .pods)).isSome) :
    ((createObjects setting workflow space plan).run Store.serve store).events = [] ∧
      ((createObjects setting workflow space plan).run Store.serve store).result =
        .ok .awaitChange := by
  have hcreated : (store.serve (plan.request space .configMaps)).2.created ConfigMap.codec =
      .ok (store.get? .configMaps (Plan.objectKey space plan.name .configMaps)).isNone :=
    plan.createdAs_serve .configMaps store _
  have hpod' : ((store.serve (plan.request space .configMaps)).1.get? .pods
      (Plan.objectKey space plan.name .pods)).isSome := by
    obtain ⟨pod, hsome⟩ := Option.isSome_iff_exists.1 hpod
    rw [Store.get?_serve_of_eq_some hsome]
    rfl
  rw [createObjects_eq, Run.events, Session.run_ask_exchanges, Session.run_ask_result, hcreated]
  exact createPod_run_of_isSome hpod'

/-- What an attempt leaves as it is: the documents, and what the plan would come to. -/
def Retains (plan : Plan) (space : String) (store store' : Store) : Prop :=
  plan.provide space store' = plan.provide space store ∧
    ∀ key, documentIn store' key = documentIn store key

/-- The plan an attempt compiles where the stored defaults are read as they are. -/
abbrev planIn (setting : Setting) (workflow : Workflow) (space : String) (store : Store) :
    Except SpecFault Plan :=
  (Attempt.mk setting workflow (documentIn store ⟨space, setting.environment.defaultsName⟩)).plan

/-- An attempt may fail anywhere but where it reads. -/
theorem retains_reconcile (hspace : workflow.metadata.namespaceName = some space)
    (hplan : planIn setting workflow space store = .ok plan) {faults : Faults}
    (hread : ∀ key, faults (.read key) = none) {store' : Store}
    (h : Retains plan space store store') :
    Retains plan space store
      ((reconcile setting workflow).run (Store.serveFaulty faults) store').store := by
  have hplan' : (Attempt.under (Store.serveFaulty faults) setting workflow store').plan =
      .ok plan := by
    rw [Attempt.under_eq hspace (hread _), h.2]
    exact hplan
  refine reconcile_invariant ?_ h
  rintro store'' resource key object ⟨space', plan', hspace', hok, hkey, rfl⟩ hstore''
  -- The attempt has the one namespace and the one plan.
  cases hspace'.symm.trans hspace
  cases hok.symm.trans hplan'
  have hname : plan.name = workflow.name := compile_name hplan
  have hkey' : key = Plan.objectKey space plan.name resource := by
    rw [hname]
    exact hkey
  cases hkey'
  constructor
  · exact (plan.provide_offer space store'' resource).trans hstore''.1
  · intro key'
    rw [documentIn_offer, hstore''.2]

theorem retains_attempts (hspace : workflow.metadata.namespaceName = some space)
    (hplan : planIn setting workflow space store = .ok plan) {attempts : List Faults}
    (hread : ∀ faults ∈ attempts, ∀ key, faults (.read key) = none) :
    Retains plan space store (attempts.foldl (fun store faults =>
      ((reconcile setting workflow).run (Store.serveFaulty faults) store).store) store) :=
  List.foldlRecOn attempts _ ⟨rfl, fun _ => rfl⟩ fun _ hstore faults hfaults =>
    retains_reconcile hspace hplan (hread faults hfaults) hstore

/-- Without failures both objects are there in the end. -/
theorem reconcile_run_serve (hspace : workflow.metadata.namespaceName = some space)
    (hunsettled : isSettled workflow = false)
    (hplan : planIn setting workflow space store = .ok plan) :
    ((reconcile setting workflow).run Store.serve store).store = plan.provide space store := by
  have hplan' : (Attempt.under (Store.serveFaulty fun _ => none) setting workflow store).plan =
      .ok plan := by
    rw [Attempt.under_eq hspace rfl]
    exact hplan
  rw [← Store.serveFaulty_none, reconcile_run_store hspace hunsettled hplan' rfl,
    Store.serveFaulty_none, Plan.request, Store.serve_create]
  rfl

theorem reconcile_run_of_isSome (hspace : workflow.metadata.namespaceName = some space)
    (hunsettled : isSettled workflow = false)
    (hplan : planIn setting workflow space store = .ok plan)
    (hpod : (store.get? .pods (Plan.objectKey space plan.name .pods)).isSome) :
    ((reconcile setting workflow).run Store.serve store).events = [] ∧
      ((reconcile setting workflow).run Store.serve store).result = .ok .awaitChange := by
  have hread := Store.serve_read_store store ⟨space, setting.environment.defaultsName⟩
  have hplan' : (Attempt.mk setting workflow (storedDocument (store.serve
      (.read ⟨space, setting.environment.defaultsName⟩)).2)).plan = .ok plan := hplan
  simp only [reconcile, hspace, hunsettled, Bool.false_eq_true, if_false, Run.events]
  rw [Session.run_ask_exchanges, Session.run_ask_result, compileAndCreate_eq, hplan', hread]
  exact createObjects_run_of_isSome hpod

/-- After any number of attempts that fail here and there, one without failures leaves what it would
have left at the start. Those after it change nothing, publish nothing and are content. -/
theorem retries_converge (hspace : workflow.metadata.namespaceName = some space)
    (hstays : workflow.metadata.deletionTimestamp = none) (hnew : workflow.hasRun = false)
    (hplan : planIn setting workflow space store = .ok plan) {attempts : List Faults}
    (hread : ∀ faults ∈ attempts, ∀ key, faults (.read key) = none) :
    let attempt (faults : Faults) (store : Store) :=
      (reconcile setting workflow).run (Store.serveFaulty faults) store
    let calm (store : Store) := (reconcile setting workflow).run Store.serve store
    let disturbed := attempts.foldl (fun store faults => (attempt faults store).store) store
    let final := (calm disturbed).store
    final = plan.provide space store ∧ (calm store).store = final ∧
      ∀ n : ℕ, let later := (fun store => (calm store).store)^[n] final
        later = final ∧ (calm later).events = [] ∧ (calm later).result = .ok .awaitChange := by
  intro attempt calm disturbed final
  have hunsettled : isSettled workflow = false := by simp [isSettled, hstays, hnew]
  have hretains := retains_attempts hspace hplan hread
  have hprovide {store' : Store} (h : Retains plan space store store') :
      (calm store').store = plan.provide space store := by
    have hplan' : planIn setting workflow space store' = .ok plan := by
      rw [planIn, h.2]
      exact hplan
    rw [reconcile_run_serve hspace hunsettled hplan', h.1]
  have hfinal : final = plan.provide space store := hprovide hretains
  have hlast : Retains plan space store final := by
    rw [hfinal]
    exact ⟨plan.provide_provide space store, fun key => documentIn_provide store space plan key⟩
  refine ⟨hfinal, (hprovide ⟨rfl, fun _ => rfl⟩).trans hfinal.symm, fun n => ?_⟩
  intro later
  have hlater : later = final :=
    Function.iterate_fixed ((hprovide hlast).trans hfinal.symm) n
  have hplan' : planIn setting workflow space final = .ok plan := by
    rw [planIn, hlast.2]
    exact hplan
  have hpod : (final.get? .pods (Plan.objectKey space plan.name .pods)).isSome := by
    rw [hfinal]
    exact plan.isSome_get?_provide space store
  rw [hlater]
  exact ⟨rfl, reconcile_run_of_isSome hspace hunsettled hplan' hpod⟩

theorem retries_converge_plain : ∃ plan,
    let setting := plainSetting "image"
    let workflow := plainWorkflow "w"
    let attempt (faults : Faults) (store : Store) :=
      (reconcile setting workflow).run (Store.serveFaulty faults) store
    let store := (attempt (refusing .pods) (attempt (refusing .configMaps) {}).store).store
    planIn setting workflow "space" {} = .ok plan ∧
      ((reconcile setting workflow).run Store.serve store).store = plan.provide "space" {} := by
  obtain ⟨plan, hplan⟩ := exists_plan_plainAttempt "image" "w"
  have hspace : (plainWorkflow "w").metadata.namespaceName = some "space" := rfl
  have hplan' : planIn (plainSetting "image") (plainWorkflow "w") "space" {} = .ok plan := by
    rw [planIn, documentIn_of_eq_none (Store.get?_empty _ _)]
    exact hplan
  have hread : ∀ faults ∈ [refusing .configMaps, refusing .pods], ∀ key,
      faults (.read key) = none := by
    simp [refusing]
  exact ⟨plan, hplan', (retries_converge hspace rfl rfl hplan' hread).1⟩

end Reconcile

end WorkflowPod
