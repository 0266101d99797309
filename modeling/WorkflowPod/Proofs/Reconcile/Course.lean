import WorkflowPod.Proofs.Cluster.Exchange
import WorkflowPod.Proofs.Reconcile.Convergence

/-!
The course of a reconcile: what it asks of a cluster, in which order, and which event it publishes,
whatever is answered. What it asks next depends on the answer to what it asked before.
-/
namespace WorkflowPod

open Cluster Manifest

/-- Whether something is to be done for a workflow: it has a namespace, is not being deleted, and
its monitor has not reported on it. -/
def Workflow.IsDue (workflow : Workflow) : Prop :=
  workflow.metadata.namespaceName.isSome ∧ workflow.metadata.deletionTimestamp = none ∧
    (workflow.status.bind (·.updated)).getD "" = ""

namespace Reconcile

theorem isSettled_eq_false_iff (workflow : Workflow) :
    isSettled workflow = false ↔ workflow.metadata.deletionTimestamp = none ∧
      (workflow.status.bind (·.updated)).getD "" = "" := by
  unfold isSettled Workflow.hasRun
  rw [Bool.or_eq_false_iff, Option.isSome_eq_false_iff, Option.isNone_iff_eq_none]
  refine and_congr_right fun _ => ?_
  cases workflow.status with
  | none => simp
  | some status => cases h : status.updated <;> simp [Workflow.given, h, Option.filter_some]

theorem isDue_iff (workflow : Workflow) :
    workflow.IsDue ↔
      ∃ space, workflow.metadata.namespaceName = some space ∧ isSettled workflow = false := by
  rw [Workflow.IsDue, Option.isSome_iff_exists, isSettled_eq_false_iff, exists_and_right]

theorem not_isDue_of_eq_none {workflow : Workflow} (h : workflow.metadata.namespaceName = none) :
    ¬workflow.IsDue := by
  simp [Workflow.IsDue, h]

theorem not_isDue_of_isSettled {workflow : Workflow} (h : isSettled workflow = true) :
    ¬workflow.IsDue := by
  simp [isDue_iff, h]

/-- The request for the stored defaults. -/
abbrev readRequest (setting : Setting) (space : String) : Request :=
  .read ⟨space, setting.environment.defaultsName⟩

/-- The request for an object of a workflow with the plan `plan`. -/
abbrev postRequest (workflow : Workflow) (space : String) (plan : Plan) (resource : Resource) :
    Request :=
  .create resource (Plan.objectKey space workflow.name resource) (plan.object resource)

/-- The exchanges about the objects of a plan and what they come to. -/
inductive Delivery (setting : Setting) (workflow : Workflow) (space : String) (plan : Plan) :
    List Exchange → Outcome → Prop where
  /-- The config map could not be created. -/
  | unconfigured {map : Reply} {fault : Fault} (hmap : map.createdAs .configMaps = .error fault) :
      Delivery setting workflow space plan
        [⟨postRequest workflow space plan .configMaps, map⟩] (.error (.cluster fault))
  /-- The pod could not be created. -/
  | podless {map pod : Reply} {isNew : Bool} {fault : Fault}
      (hmap : map.createdAs .configMaps = .ok isNew) (hpod : pod.createdAs .pods = .error fault) :
      Delivery setting workflow space plan
        [⟨postRequest workflow space plan .configMaps, map⟩,
          ⟨postRequest workflow space plan .pods, pod⟩] (.error (.cluster fault))
  /-- The pod was there. -/
  | present {map pod : Reply} {isNew : Bool}
      (hmap : map.createdAs .configMaps = .ok isNew) (hpod : pod.createdAs .pods = .ok false) :
      Delivery setting workflow space plan
        [⟨postRequest workflow space plan .configMaps, map⟩,
          ⟨postRequest workflow space plan .pods, pod⟩] (.ok .awaitChange)
  /-- The pod was created. -/
  | created {map pod answer : Reply} {isNew : Bool}
      (hmap : map.createdAs .configMaps = .ok isNew) (hpod : pod.createdAs .pods = .ok true) :
      Delivery setting workflow space plan
        [⟨postRequest workflow space plan .configMaps, map⟩,
          ⟨postRequest workflow space plan .pods, pod⟩,
          ⟨.publish (podCreated setting workflow space workflow.name), answer⟩] (.ok .awaitChange)

/-- The exchanges of a reconcile and what they come to, where compiling the workflow comes to
`compiled`. -/
inductive Course (setting : Setting) (workflow : Workflow) (compiled : Except SpecFault Plan) :
    List Exchange → Outcome → Prop where
  /-- The workflow has no namespace. -/
  | homeless (hspace : workflow.metadata.namespaceName = none) :
      Course setting workflow compiled [] (.error .missingNamespace)
  /-- There is nothing to be done. -/
  | settled {space : String} (hspace : workflow.metadata.namespaceName = some space)
      (hsettled : isSettled workflow = true) :
      Course setting workflow compiled [] (.ok .awaitChange)
  /-- The workflow could not be compiled. -/
  | uncompiled {space : String} {document answer : Reply} {fault : SpecFault}
      (hspace : workflow.metadata.namespaceName = some space)
      (hunsettled : isSettled workflow = false) (hfault : compiled = .error fault) :
      Course setting workflow compiled
        [⟨readRequest setting space, document⟩,
          ⟨.publish (compilationFailed setting workflow fault), answer⟩] (.error (.spec fault))
  /-- The objects of the plan were to be created. -/
  | delivered {space : String} {document : Reply} {plan : Plan} {exchanges : List Exchange}
      {outcome : Outcome} (hspace : workflow.metadata.namespaceName = some space)
      (hunsettled : isSettled workflow = false) (hplan : compiled = .ok plan)
      (hdelivery : Delivery setting workflow space plan exchanges outcome) :
      Course setting workflow compiled (⟨readRequest setting space, document⟩ :: exchanges) outcome

section Run

variable (serve : Store → Request → Store × Reply) (setting : Setting) (workflow : Workflow)

theorem createObjects_delivery (space : String) {plan : Plan} (hname : plan.name = workflow.name)
    (store : Store) :
    Delivery setting workflow space plan
      ((createObjects setting workflow space plan).run serve store).exchanges
      ((createObjects setting workflow space plan).run serve store).result := by
  have hrequest (resource : Resource) :
      plan.request space resource = postRequest workflow space plan resource := by
    rw [Plan.request, hname]
  rw [createObjects_eq, Session.run_ask_exchanges, Session.run_ask_result, hrequest .configMaps]
  generalize serve store (postRequest workflow space plan .configMaps) = map
  obtain ⟨store', map⟩ := map
  cases hmap : map.created ConfigMap.codec with
  | error fault => exact .unconfigured hmap
  | ok isNew =>
    dsimp only
    rw [createPod_eq, Session.run_ask_exchanges, Session.run_ask_result, hrequest .pods, hname]
    generalize serve store' (postRequest workflow space plan .pods) = pod
    obtain ⟨store'', pod⟩ := pod
    cases hpod : pod.created Pod.codec with
    | error fault => exact .podless hmap hpod
    | ok isNew' =>
      cases isNew' with
      | false => exact .present hmap hpod
      | true => exact .created hmap hpod

/-- Whatever is answered, a reconcile takes one of the courses. -/
theorem reconcile_course (store : Store) :
    Course setting workflow (Attempt.under serve setting workflow store).plan
      ((reconcile setting workflow).run serve store).exchanges
      ((reconcile setting workflow).run serve store).result := by
  cases hspace : workflow.metadata.namespaceName with
  | none =>
    simp only [reconcile, hspace]
    exact .homeless hspace
  | some space =>
    cases hsettled : isSettled workflow with
    | true =>
      simp only [reconcile, hspace, hsettled, if_true]
      exact .settled hspace hsettled
    | false =>
      simp only [reconcile, hspace, hsettled, Bool.false_eq_true, if_false, Attempt.under,
        Option.getD_some]
      rw [Session.run_ask_exchanges, Session.run_ask_result, compileAndCreate_eq]
      generalize serve store (readRequest setting space) = document
      obtain ⟨store', document⟩ := document
      cases hplan : (Attempt.mk setting workflow (storedDocument document)).plan with
      | error fault => exact .uncompiled hspace hsettled rfl
      | ok plan =>
        exact .delivered hspace hsettled rfl
          (createObjects_delivery serve setting workflow space (compile_name hplan) store')

end Run

end Reconcile

namespace Cluster.Event

/-- The event says that its workflow could not be compiled. -/
def WarnsOfSpec (event : Event) : Prop :=
  event.severity = .warning ∧ event.reason = "CompilationFailed"

/-- The event says that a pod was created. -/
def ReportsPod (event : Event) : Prop := event.severity = .normal ∧ event.reason = "PodCreated"

end Cluster.Event

namespace Reconcile

/-- The order a reconcile keeps, where compiling its workflow comes to `compiled`. -/
structure Orderly (setting : Setting) (workflow : Workflow) (compiled : Except SpecFault Plan)
    (run : Run Outcome) : Prop where
  /-- Three calls are made at most, one after the other. -/
  calls_prefix : ∀ space, workflow.metadata.namespaceName = some space →
    run.calls <+:
      [.get .configMaps ⟨space, setting.environment.defaultsName⟩,
        .post .configMaps ⟨space, workflow.name ++ "-config"⟩, .post .pods ⟨space, workflow.name⟩]
  /-- Nothing at all is asked or published unless the workflow is due. -/
  exchanges_ne_nil_iff : run.exchanges ≠ [] ↔ workflow.IsDue
  /-- Objects are created only from a plan. -/
  posts_iff : (∃ resource key, Call.post resource key ∈ run.calls) ↔
    workflow.IsDue ∧ ∃ plan, compiled = .ok plan
  /-- The pod is asked for just when its config map is there. -/
  posts_pod_iff : ∀ space, workflow.metadata.namespaceName = some space →
    (Call.post .pods ⟨space, workflow.name⟩ ∈ run.calls ↔
      ∃ exchange ∈ run.exchanges,
        exchange.request.call? = some (.post .configMaps ⟨space, workflow.name ++ "-config"⟩) ∧
          exchange.reply.Accepts .configMaps)
  /-- A workflow that cannot be compiled is warned about. -/
  warns_iff : (∃ event ∈ run.events, event.WarnsOfSpec) ↔
    workflow.IsDue ∧ ∃ fault, compiled = .error fault
  /-- A pod is reported just when it was created. -/
  reports_iff : (∃ event ∈ run.events, event.ReportsPod) ↔
    ∃ exchange ∈ run.exchanges, (∃ key, exchange.request.call? = some (.post .pods key)) ∧
      exchange.reply.Creates .pods
  /-- There is nothing else to say, and never both. -/
  events_cases : run.events = [] ∨
    ∃ event, run.events = [event] ∧ (event.WarnsOfSpec ∨ event.ReportsPod)

namespace Course

variable {setting : Setting} {workflow : Workflow} {compiled : Except SpecFault Plan}
  {run : Run Outcome}

theorem calls_prefix (h : Course setting workflow compiled run.exchanges run.result)
    {space : String} (hspace : workflow.metadata.namespaceName = some space) :
    run.calls <+:
      [.get .configMaps ⟨space, setting.environment.defaultsName⟩,
        .post .configMaps ⟨space, workflow.name ++ "-config"⟩,
        .post .pods ⟨space, workflow.name⟩] := by
  obtain ⟨store, exchanges, result⟩ := run
  cases h with
  | homeless => exact List.nil_prefix
  | settled => exact List.nil_prefix
  | uncompiled hspace' =>
    cases hspace.symm.trans hspace'
    exact ⟨_, rfl⟩
  | delivered hspace' _ _ hdelivery =>
    cases hspace.symm.trans hspace'
    cases hdelivery <;> exact ⟨_, rfl⟩

theorem exchanges_ne_nil_iff (h : Course setting workflow compiled run.exchanges run.result) :
    run.exchanges ≠ [] ↔ workflow.IsDue := by
  obtain ⟨store, exchanges, result⟩ := run
  cases h with
  | homeless hspace => simp [not_isDue_of_eq_none hspace]
  | settled _ hsettled => simp [not_isDue_of_isSettled hsettled]
  | uncompiled hspace hunsettled => simp [isDue_iff, hspace, hunsettled]
  | delivered hspace hunsettled => simp [isDue_iff, hspace, hunsettled]

theorem posts_iff (h : Course setting workflow compiled run.exchanges run.result) :
    (∃ resource key, Call.post resource key ∈ run.calls) ↔
      workflow.IsDue ∧ ∃ plan, compiled = .ok plan := by
  obtain ⟨store, exchanges, result⟩ := run
  cases h with
  | homeless hspace => simp [Run.calls, not_isDue_of_eq_none hspace]
  | settled _ hsettled => simp [Run.calls, not_isDue_of_isSettled hsettled]
  | uncompiled _ _ hfault => simp [Run.calls, Request.call?, hfault]
  | delivered hspace hunsettled hplan hdelivery =>
    refine iff_of_true ?_ ⟨(isDue_iff workflow).2 ⟨_, hspace, hunsettled⟩, _, hplan⟩
    cases hdelivery <;> exact ⟨.configMaps, _, List.mem_cons_of_mem _ List.mem_cons_self⟩

theorem posts_pod_iff (h : Course setting workflow compiled run.exchanges run.result)
    {space : String} (hspace : workflow.metadata.namespaceName = some space) :
    Call.post .pods ⟨space, workflow.name⟩ ∈ run.calls ↔
      ∃ exchange ∈ run.exchanges,
        exchange.request.call? = some (.post .configMaps ⟨space, workflow.name ++ "-config"⟩) ∧
          exchange.reply.Accepts .configMaps := by
  obtain ⟨store, exchanges, result⟩ := run
  cases h with
  | homeless => simp [Run.calls]
  | settled => simp [Run.calls]
  | uncompiled => simp [Run.calls, Request.call?]
  | delivered hspace' _ _ hdelivery =>
    cases hspace.symm.trans hspace'
    simp only [Reply.accepts_iff]
    cases hdelivery with
    | unconfigured hmap =>
      simp [Run.calls, Request.call?, hmap]
    | podless hmap =>
      simp [Run.calls, Request.call?, Plan.objectKey, Plan.configMapName, hmap]
    | present hmap =>
      simp [Run.calls, Request.call?, Plan.objectKey, Plan.configMapName, hmap]
    | created hmap =>
      simp [Run.calls, Request.call?, Plan.objectKey, Plan.configMapName, hmap]

theorem warns_iff (h : Course setting workflow compiled run.exchanges run.result) :
    (∃ event ∈ run.events, event.WarnsOfSpec) ↔
      workflow.IsDue ∧ ∃ fault, compiled = .error fault := by
  obtain ⟨store, exchanges, result⟩ := run
  cases h with
  | homeless hspace => simp [Run.events, not_isDue_of_eq_none hspace]
  | settled _ hsettled => simp [Run.events, not_isDue_of_isSettled hsettled]
  | uncompiled hspace hunsettled hfault =>
    simp [Run.events, isDue_iff, hspace, hunsettled, hfault, compilationFailed,
      Event.WarnsOfSpec]
  | delivered _ _ hplan hdelivery =>
    rw [hplan]
    cases hdelivery <;> simp [Run.events, podCreated, Event.WarnsOfSpec]

theorem reports_iff (h : Course setting workflow compiled run.exchanges run.result) :
    (∃ event ∈ run.events, event.ReportsPod) ↔
      ∃ exchange ∈ run.exchanges, (∃ key, exchange.request.call? = some (.post .pods key)) ∧
        exchange.reply.Creates .pods := by
  obtain ⟨store, exchanges, result⟩ := run
  simp only [← Reply.createdAs_eq_ok_true_iff]
  cases h with
  | homeless => simp [Run.events]
  | settled => simp [Run.events]
  | uncompiled => simp [Run.events, Request.call?, compilationFailed, Event.ReportsPod]
  | delivered _ _ _ hdelivery =>
    cases hdelivery with
    | unconfigured => simp [Run.events, Request.call?]
    | podless _ hpod => simp [Run.events, Request.call?, hpod]
    | present _ hpod => simp [Run.events, Request.call?, hpod]
    | created _ hpod => simp [Run.events, Request.call?, hpod, podCreated, Event.ReportsPod]

theorem events_cases (h : Course setting workflow compiled run.exchanges run.result) :
    run.events = [] ∨ ∃ event, run.events = [event] ∧ (event.WarnsOfSpec ∨ event.ReportsPod) := by
  obtain ⟨store, exchanges, result⟩ := run
  cases h with
  | homeless => exact .inl rfl
  | settled => exact .inl rfl
  | uncompiled => exact .inr ⟨_, rfl, .inl ⟨rfl, rfl⟩⟩
  | delivered _ _ _ hdelivery =>
    cases hdelivery with
    | unconfigured => exact .inl rfl
    | podless => exact .inl rfl
    | present => exact .inl rfl
    | created => exact .inr ⟨_, rfl, .inr ⟨rfl, rfl⟩⟩

theorem orderly (h : Course setting workflow compiled run.exchanges run.result) :
    Orderly setting workflow compiled run where
  calls_prefix := fun _ => h.calls_prefix
  exchanges_ne_nil_iff := h.exchanges_ne_nil_iff
  posts_iff := h.posts_iff
  posts_pod_iff := fun _ => h.posts_pod_iff
  warns_iff := h.warns_iff
  reports_iff := h.reports_iff
  events_cases := h.events_cases

end Course

/-- In an orderly run a pod is asked for after its config map has been accepted. -/
theorem Orderly.exists_accepted {setting : Setting} {workflow : Workflow}
    {compiled : Except SpecFault Plan} {run : Run Outcome}
    (h : Orderly setting workflow compiled run) {key : Key} {pod : Json} {reply : Reply}
    (hpod : Exchange.mk (.create .pods key pod) reply ∈ run.exchanges) :
    ∃ configMap reply', Exchange.mk (.create .configMaps ⟨key.space, key.name ++ "-config"⟩
      configMap) reply' ∈ run.exchanges ∧ reply'.Accepts .configMaps := by
  have hdue : workflow.IsDue := h.exchanges_ne_nil_iff.1 (List.ne_nil_of_mem hpod)
  obtain ⟨space, hspace⟩ := Option.isSome_iff_exists.1 hdue.1
  have hcall : Call.post .pods key ∈ run.calls := List.mem_filterMap.2 ⟨_, hpod, rfl⟩
  have hkey : key = ⟨space, workflow.name⟩ := by
    simpa using (h.calls_prefix space hspace).subset hcall
  subst hkey
  obtain ⟨⟨request, reply'⟩, hmem, hrequest, haccepts⟩ := (h.posts_pod_iff space hspace).1 hcall
  cases request with
  | read => cases hrequest
  | publish => cases hrequest
  | create resource key configMap =>
    cases hrequest
    exact ⟨configMap, reply', hmem, haccepts⟩

/-- A reconcile keeps the order whatever fails, and it replaces and removes nothing. If no failure
passes for success, each pod it creates has its config map. -/
theorem reconcile_orderly (setting : Setting) (workflow : Workflow) (faults : Faults)
    (store : Store) :
    let run := (reconcile setting workflow).run (Store.serveFaulty faults) store
    Orderly setting workflow (Attempt.under (Store.serveFaulty faults) setting workflow store).plan
        run ∧
      (∀ resource key object, store.get? resource key = some object →
        run.store.get? resource key = some object) ∧
      (faults.AreHonest → ∀ key pod, store.get? .pods key = none →
        run.store.get? .pods key = some pod →
          (run.store.get? .configMaps ⟨key.space, key.name ++ "-config"⟩).isSome) := by
  intro run
  have horderly := (reconcile_course (Store.serveFaulty faults) setting workflow store).orderly
  have hserved : Served (Store.serveFaulty faults) store run.exchanges run.store :=
    Session.run_served _ _ store
  refine ⟨horderly, fun _ _ _ => hserved.get?_of_eq_some, fun hfaults key pod hnone hsome => ?_⟩
  obtain ⟨reply, hpod⟩ := hserved.exists_create_of_new hnone hsome
  obtain ⟨configMap, reply', hmem, haccepts⟩ := horderly.exists_accepted hpod
  exact hserved.isSome_get?_of_accepts hfaults hmem haccepts

/-- Events get lost; the objects are created all the same. -/
def losingEvents : Faults
  | .publish _ => some (.refusal 500 "injected")
  | .read _ | .create .. => none

theorem reconcile_orderly_losingEvents :
    let run := (reconcile (plainSetting "image") (plainWorkflow "w")).run
      (Store.serveFaulty losingEvents) {}
    losingEvents.AreHonest ∧ (run.store.get? .pods ⟨"space", "w"⟩).isSome ∧
      (run.store.get? .configMaps ⟨"space", "w-config"⟩).isSome := by
  intro run
  have hfaults : losingEvents.AreHonest := nofun
  have hpod : (run.store.get? .pods ⟨"space", "w"⟩).isSome := by decide +kernel
  obtain ⟨pod, hsome⟩ := Option.isSome_iff_exists.1 hpod
  exact ⟨hfaults, hpod, (reconcile_orderly _ _ losingEvents {}).2.2 hfaults ⟨"space", "w"⟩ pod
    (Store.get?_empty _ _) hsome⟩

end Reconcile

end WorkflowPod
