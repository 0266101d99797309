import WorkflowPod.Proofs.Compile.Fault
import WorkflowPod.Proofs.Reconcile.Course

/-!
How a reconcile ends, and what is done next. Main statement: it fails for want of a namespace, for a
workflow that cannot be compiled, or for an object that the cluster does not create, in this order,
and only the last is tried again; defaults that cannot be read and events that get lost are no
reason to fail.
-/
namespace WorkflowPod

open Cluster Manifest

namespace Cluster

namespace Reply

/-- What is wrong with a reply that is not taken for success. -/
def fault : Reply → Fault
  | refusal code message => .refused code message
  | answer .. => .unreadable

theorem fault_of_created {α : Type} {c : Json.Codec α} {reply : Reply} {fault : Fault}
    (h : reply.created c = .error fault) : reply.fault = fault := by
  cases reply with
  | refusal code message =>
    by_cases hcode : code = 409
    · subst hcode
      simp [created, result] at h
    · simpa [created, result, hcode, Reply.fault] using h
  | answer status body =>
    cases hbody : body.bind c.decode? with
    | none => simpa [created, result, hbody, Reply.fault] using h
    | some value => simp [created, result, hbody] at h

theorem createdAs_eq_error_iff (reply : Reply) (resource : Resource) (fault : Fault) :
    reply.createdAs resource = .error fault ↔ ¬reply.Accepts resource ∧ reply.fault = fault := by
  rw [accepts_iff]
  have hfault {fault : Fault} (h : reply.createdAs resource = .error fault) :
      reply.fault = fault := by
    cases resource <;> exact fault_of_created h
  constructor
  · intro h
    refine ⟨?_, hfault h⟩
    rintro ⟨isNew, h'⟩
    cases h.symm.trans h'
  · rintro ⟨hnot, rfl⟩
    cases h : reply.createdAs resource with
    | ok isNew => exact absurd ⟨isNew, h⟩ hnot
    | error fault => rw [hfault h]

/-- The fault of a request to create an object, if it has one. -/
def createFault? (reply : Reply) (resource : Resource) : Option Fault :=
  match reply.createdAs resource with
  | .error fault => some fault
  | .ok _ => none

end Reply

/-- An object was to be created in an exchange and is not there, because of a fault. -/
def Exchange.FailsToCreate (exchange : Exchange) (fault : Fault) : Prop :=
  ∃ resource key object, exchange.request = .create resource key object ∧
    ¬exchange.reply.Accepts resource ∧ exchange.reply.fault = fault

namespace Exchange

variable {reply : Reply} {fault : Fault}

@[simp] theorem failsToCreate_read (key : Key) :
    ¬FailsToCreate ⟨.read key, reply⟩ fault := by
  rintro ⟨_, _, _, ⟨⟩, -⟩

@[simp] theorem failsToCreate_publish (event : Event) :
    ¬FailsToCreate ⟨.publish event, reply⟩ fault := by
  rintro ⟨_, _, _, ⟨⟩, -⟩

@[simp] theorem failsToCreate_create {resource : Resource} {key : Key} {object : Json} :
    FailsToCreate ⟨.create resource key object, reply⟩ fault ↔
      reply.createdAs resource = .error fault := by
  rw [Reply.createdAs_eq_error_iff]
  constructor
  · rintro ⟨_, _, _, ⟨⟩, h⟩
    exact h
  · exact fun h => ⟨resource, key, object, rfl, h⟩

end Exchange

end Cluster

namespace Reconcile

/-- What is done next: what a reconcile asks for, or what its fault calls for. -/
def nextAction : Outcome → Action
  | .ok action => action
  | .error fault => actionAfter fault

/-- How a run for a workflow ends, where compiling it comes to `compiled`. -/
structure Concluded (workflow : Workflow) (compiled : Except SpecFault Plan)
    (run : Run Outcome) : Prop where
  missingNamespace_iff :
    run.result = .error .missingNamespace ↔ workflow.metadata.namespaceName = none
  spec_iff : ∀ fault,
    run.result = .error (.spec fault) ↔ workflow.IsDue ∧ compiled = .error fault
  /-- The fault is that of an object that was to be created. -/
  cluster_iff : ∀ fault, run.result = .error (.cluster fault) ↔
    ∃ exchange ∈ run.exchanges, exchange.FailsToCreate fault
  action_of_ok : ∀ action, run.result = .ok action → action = .awaitChange
  requeue_iff : nextAction run.result = .requeue 30 ↔ ∃ fault, run.result = .error (.cluster fault)
  /-- There is nothing else to do than to try again or to wait. -/
  awaitChange_iff :
    nextAction run.result = .awaitChange ↔ ∀ fault, run.result ≠ .error (.cluster fault)

section Course

variable {setting : Setting} {workflow : Workflow}

theorem Delivery.cluster_iff {space : String} {plan : Plan} {exchanges : List Exchange}
    {outcome : Outcome} (h : Delivery setting workflow space plan exchanges outcome)
    (fault : Fault) : outcome = .error (.cluster fault) ↔
      ∃ exchange ∈ exchanges, exchange.FailsToCreate fault := by
  cases h with
  | unconfigured hmap => simp [hmap]
  | podless hmap hpod => simp [hmap, hpod]
  | present hmap hpod => simp [hmap, hpod]
  | created hmap hpod => simp [hmap, hpod]

theorem Delivery.cases {space : String} {plan : Plan} {exchanges : List Exchange}
    {outcome : Outcome} (h : Delivery setting workflow space plan exchanges outcome) :
    outcome = .ok .awaitChange ∨ ∃ fault, outcome = .error (.cluster fault) := by
  cases h with
  | unconfigured => exact .inr ⟨_, rfl⟩
  | podless => exact .inr ⟨_, rfl⟩
  | present => exact .inl rfl
  | created => exact .inl rfl

theorem Course.concluded {compiled : Except SpecFault Plan} {run : Run Outcome}
    (h : Course setting workflow compiled run.exchanges run.result) :
    Concluded workflow compiled run := by
  obtain ⟨store, exchanges, result⟩ := run
  cases h with
  | homeless hspace =>
    constructor <;> simp [hspace, not_isDue_of_eq_none hspace, nextAction, actionAfter,
      ReconcileFault.isRetryable]
  | settled hspace hsettled =>
    constructor <;> simp [hspace, not_isDue_of_isSettled hsettled, nextAction]
  | uncompiled hspace hunsettled hfault =>
    have hdue : workflow.IsDue := (isDue_iff workflow).2 ⟨_, hspace, hunsettled⟩
    constructor <;> simp [hspace, hdue, hfault, nextAction, actionAfter,
      ReconcileFault.isRetryable]
  | delivered hspace hunsettled hplan hdelivery =>
    constructor
    case cluster_iff =>
      -- The defaults are read first, and that is no request to create.
      intro fault
      rw [List.exists_mem_cons_iff, or_iff_right (Exchange.failsToCreate_read _)]
      exact hdelivery.cluster_iff fault
    all_goals
      obtain rfl | ⟨fault, rfl⟩ := hdelivery.cases
      · simp [hspace, hplan, nextAction]
      · simp [hspace, hplan, nextAction, actionAfter, ReconcileFault.isRetryable]

end Course

/-- What a reconcile comes to that was to create objects, by the fault that kept it from it. -/
def conclude : Option Fault → Outcome
  | some fault => .error (.cluster fault)
  | none => .ok .awaitChange

/-- What faults make of the request to create an object of a plan; if it is served, it has none. -/
def createFault? (faults : Faults) (space : String) (plan : Plan) (resource : Resource) :
    Option Fault :=
  (faults (plan.request space resource)).bind (·.createFault? resource)

section Result

variable {setting : Setting} {workflow : Workflow} {space : String} {faults : Faults}

theorem createFault?_serveFaulty (faults : Faults) (space : String) (plan : Plan)
    (resource : Resource) (store : Store) :
    (store.serveFaulty faults (plan.request space resource)).2.createFault? resource =
      createFault? faults space plan resource := by
  unfold Store.serveFaulty createFault?
  cases faults (plan.request space resource) with
  | some reply => rfl
  | none =>
    have hserve := plan.createdAs_serve resource store (Plan.objectKey space plan.name resource)
    simp only [Plan.request, Reply.createFault?, hserve, Option.bind_none]

theorem createPod_run_result (plan : Plan) (store : Store) :
    ((createPod setting workflow space plan).run (Store.serveFaulty faults) store).result =
      conclude (createFault? faults space plan .pods) := by
  rw [createPod_eq, Session.run_ask_result,
    ← createFault?_serveFaulty faults space plan .pods store]
  generalize store.serveFaulty faults (plan.request space .pods) = served
  obtain ⟨store', reply⟩ := served
  simp only [Reply.createFault?, Reply.createdAs]
  cases reply.created Pod.codec with
  | error fault => rfl
  | ok isNew => cases isNew <;> rfl

/-- How the creation of objects ends depends on nothing but what is made of the two requests. -/
theorem createObjects_run_result (plan : Plan) (store : Store) :
    ((createObjects setting workflow space plan).run (Store.serveFaulty faults) store).result =
      conclude ((createFault? faults space plan .configMaps).or
        (createFault? faults space plan .pods)) := by
  rw [createObjects_eq, Session.run_ask_result,
    ← createFault?_serveFaulty faults space plan .configMaps store]
  generalize store.serveFaulty faults (plan.request space .configMaps) = served
  obtain ⟨store', reply⟩ := served
  simp only [Reply.createFault?, Reply.createdAs]
  cases reply.created ConfigMap.codec with
  | error fault => rfl
  | ok isNew => exact createPod_run_result plan store'

theorem reconcile_run_result (hspace : workflow.metadata.namespaceName = some space)
    (hunsettled : isSettled workflow = false) (store : Store) :
    ((reconcile setting workflow).run (Store.serveFaulty faults) store).result =
      match (Attempt.under (Store.serveFaulty faults) setting workflow store).plan with
      | .error fault => .error (.spec fault)
      | .ok plan => conclude ((createFault? faults space plan .configMaps).or
          (createFault? faults space plan .pods)) := by
  simp only [reconcile, hspace, hunsettled, Bool.false_eq_true, if_false, Attempt.under,
    Option.getD_some]
  rw [Session.run_ask_result, compileAndCreate_eq]
  generalize (Attempt.mk setting workflow (storedDocument _)).plan = compiled
  cases compiled with
  | error fault => rfl
  | ok plan => exact createObjects_run_result plan _

/-- Whether there is a plan, or else why not, the workflow decides alone. -/
theorem Attempt.plan_eq_error_iff (attempt : Attempt) (fault : SpecFault) :
    attempt.plan = .error fault ↔ Compile.SpecFails attempt.workflow.spec fault :=
  Compile.compile_eq_error_iff ..

/-- Two reconciles of a workflow end alike if their requests to create objects fare alike. -/
theorem reconcile_run_result_congr {faults' : Faults} {store store' : Store}
    (h : ∀ space plan plan',
      (Attempt.under (Store.serveFaulty faults) setting workflow store).plan = .ok plan →
      (Attempt.under (Store.serveFaulty faults') setting workflow store').plan = .ok plan' →
      ∀ resource, faults' (plan'.request space resource) = faults (plan.request space resource)) :
    ((reconcile setting workflow).run (Store.serveFaulty faults') store').result =
      ((reconcile setting workflow).run (Store.serveFaulty faults) store).result := by
  cases hspace : workflow.metadata.namespaceName with
  | none =>
    simp only [reconcile, hspace]
    rfl
  | some space =>
    cases hsettled : isSettled workflow with
    | true =>
      simp only [reconcile, hspace, hsettled, if_true]
      rfl
    | false =>
      have herror (fault : SpecFault) :
          (Attempt.under (Store.serveFaulty faults') setting workflow store').plan =
            .error fault ↔
          (Attempt.under (Store.serveFaulty faults) setting workflow store).plan =
            .error fault := by
        rw [Attempt.plan_eq_error_iff, Attempt.plan_eq_error_iff]
        rfl
      rw [reconcile_run_result hspace hsettled, reconcile_run_result hspace hsettled]
      cases hplan : (Attempt.under (Store.serveFaulty faults) setting workflow store).plan with
      | error fault => rw [(herror fault).2 hplan]
      | ok plan =>
        cases hplan' : (Attempt.under (Store.serveFaulty faults') setting workflow store').plan with
        | error fault => cases hplan.symm.trans ((herror fault).1 hplan')
        | ok plan' => simp only [createFault?, h space plan plan' hplan hplan']

end Result

/-- Each fault of a reconcile has one cause, and only a fault of the cluster is a reason to try
again. Neither lost events nor anything about the stored defaults changes how a reconcile ends. -/
theorem reconcile_concluded (setting : Setting) (workflow : Workflow) (faults : Faults)
    (store : Store) :
    let run := (reconcile setting workflow).run (Store.serveFaulty faults) store
    Concluded workflow
        (Attempt.under (Store.serveFaulty faults) setting workflow store).plan run ∧
      (∀ faults' : Faults,
        (∀ request, (∀ event, request ≠ .publish event) → faults' request = faults request) →
        ((reconcile setting workflow).run (Store.serveFaulty faults') store).result =
          run.result) ∧
      ∀ (faults' : Faults) (store' : Store),
        (∀ resource key object object',
          faults' (.create resource key object') = faults (.create resource key object)) →
        ((reconcile setting workflow).run (Store.serveFaulty faults') store').result =
          run.result := by
  intro run
  refine ⟨(reconcile_course _ setting workflow store).concluded, ?_, ?_⟩
  · intro faults' hagree
    refine reconcile_run_result_congr fun space plan plan' hplan hplan' resource => ?_
    have hread (key : Key) :
        store.serveFaulty faults' (.read key) = store.serveFaulty faults (.read key) := by
      rw [Store.serveFaulty, Store.serveFaulty, hagree (.read key) (by simp)]
    simp only [Attempt.under, hread] at hplan hplan'
    rw [hplan] at hplan'
    cases hplan'
    exact hagree _ (by simp [Plan.request])
  · intro faults' store' hagree
    refine reconcile_run_result_congr fun space plan plan' hplan hplan' resource => ?_
    rw [Plan.request, Plan.request, compile_name hplan, compile_name hplan']
    exact hagree _ _ _ _

/-- Nothing can be done but creating a config map. -/
def onlyConfigMaps : Faults
  | .create .configMaps .. => none
  | .create .pods .. | .read _ | .publish _ => some (.refusal 500 "injected")

theorem reconcile_concluded_refusingPods :
    let runUnder (faults : Faults) := (reconcile (plainSetting "image") (plainWorkflow "w")).run
      (Store.serveFaulty faults) {}
    let run := runUnder (refusing .pods)
    run.result = .error (.cluster (.refused 500 "injected")) ∧
      nextAction run.result = .requeue 30 ∧
      (runUnder fun request => (losingEvents request).or (refusing .pods request)).result =
        run.result ∧
      (runUnder onlyConfigMaps).result = run.result := by
  intro runUnder run
  obtain ⟨hconcluded, hevents, hposts⟩ :=
    reconcile_concluded (plainSetting "image") (plainWorkflow "w") (refusing .pods) {}
  have hresult : run.result = .error (.cluster (.refused 500 "injected")) := by decide +kernel
  refine ⟨hresult, hconcluded.requeue_iff.2 ⟨_, hresult⟩, hevents _ ?events, hposts _ _ ?posts⟩
  case events =>
    intro request hrequest
    cases request with
    | read => rfl
    | create => rfl
    | publish event => exact absurd rfl (hrequest event)
  case posts =>
    intro resource key object object'
    cases resource <;> rfl

end Reconcile

end WorkflowPod
