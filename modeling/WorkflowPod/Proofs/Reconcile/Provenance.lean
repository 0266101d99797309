import WorkflowPod.Proofs.Reconcile.Session

/-!
Where the objects in a cluster come from. Over any run of reconciles, restarts and changes by
others, the config map of a workflow holds the text of the pod that was compiled along with it. The
pod that is there may come from another attempt, compiled in another setting or with other stored
defaults.
-/
namespace WorkflowPod.Reconcile

open Cluster Manifest

/-- A cluster with its operator. For each object that is there as a reconcile has stored it,
`origin` is the attempt that did. -/
structure World where
  setting : Setting
  store : Store := {}
  origin : Resource → Key → Option Attempt := fun _ _ => none

/-- What happens in a world. -/
inductive Happening where
  /-- The operator starts anew in another setting. -/
  | restart (setting : Setting)
  /-- A workflow is reconciled, and some of the requests fail. -/
  | reconcile (workflow : Workflow) (faults : Faults)
  /-- Someone else stores an object, whether or not there is one under its key. -/
  | replace (resource : Resource) (key : Key) (object : Json)
  /-- An object is removed. -/
  | remove (resource : Resource) (key : Key)

namespace World

/-- The attempts behind the objects of a world after one of them was changed by someone else. -/
def forget (world : World) (resource : Resource) (key : Key) :
    Resource → Key → Option Attempt := fun resource' key' =>
  if resource' = resource ∧ key' = key then none else world.origin resource' key'

/-- A world after one happening. -/
def step (world : World) : Happening → World
  | .restart setting => { world with setting }
  | .reconcile workflow faults =>
    let attempt := Attempt.under (Store.serveFaulty faults) world.setting workflow world.store
    let store :=
      ((reconcile world.setting workflow).run (Store.serveFaulty faults) world.store).store
    { world with
      store
      origin := fun resource key =>
        if (world.store.get? resource key).isNone ∧ (store.get? resource key).isSome then
          some attempt
        else world.origin resource key }
  | .replace resource key object =>
    { world with
      store := world.store.put resource key object
      origin := world.forget resource key }
  | .remove resource key =>
    { world with
      store := world.store.remove resource key
      origin := world.forget resource key }

/-- A world after what has happened in it. -/
def after (world : World) (happenings : List Happening) : World := happenings.foldl step world

/-- Every object with an origin is there as its attempt has stored it. -/
def Sound (world : World) : Prop :=
  ∀ resource key attempt, world.origin resource key = some attempt →
    ∃ object, world.store.get? resource key = some object ∧ attempt.Creates resource key object

/-- What is there after an attempt was there before it or is new and the attempt's own. -/
theorem get?_reconcile (setting : Setting) (workflow : Workflow) (faults : Faults) (store : Store)
    (resource : Resource) (key : Key) :
    let store' := ((reconcile setting workflow).run (Store.serveFaulty faults) store).store
    store'.get? resource key = store.get? resource key ∨
      store.get? resource key = none ∧ ∃ object, store'.get? resource key = some object ∧
        (Attempt.under (Store.serveFaulty faults) setting workflow store).Creates
          resource key object := by
  intro store'
  refine reconcile_invariant (P := fun store' =>
    store'.get? resource key = store.get? resource key ∨
      store.get? resource key = none ∧ ∃ object, store'.get? resource key = some object ∧
        (Attempt.under (Store.serveFaulty faults) setting workflow store).Creates
          resource key object) ?_ (.inl rfl)
  intro store' resource' key' object hcreates hstore'
  rw [Store.get?_offer]
  split
  · rename_i heq
    obtain ⟨rfl, rfl⟩ := heq
    rcases hstore' with hsame | ⟨hnone, object', hsome, hcreates'⟩
    · cases hold : store.get? resource key with
      | none =>
        rw [hsame, hold]
        exact .inr ⟨rfl, object, rfl, hcreates⟩
      | some object' =>
        rw [hsame, hold]
        exact .inl rfl
    · rw [hsome]
      exact .inr ⟨hnone, object', rfl, hcreates'⟩
  · exact hstore'

theorem Sound.step {world : World} (h : world.Sound) (happening : Happening) :
    (world.step happening).Sound := by
  intro resource key attempt horigin
  cases happening with
  | restart setting => exact h resource key attempt horigin
  | reconcile workflow faults =>
    have hget := get?_reconcile world.setting workflow faults world.store resource key
    simp only [World.step] at horigin ⊢
    split at horigin
    · rename_i hnew
      obtain ⟨hnone, hsome⟩ := hnew
      cases horigin
      rcases hget with hsame | ⟨-, hcreated⟩
      · rw [hsame, Option.isNone_iff_eq_none.1 hnone] at hsome
        cases hsome
      · exact hcreated
    · obtain ⟨object, hobject, hcreates⟩ := h resource key attempt horigin
      rcases hget with hsame | ⟨hnone, -⟩
      · exact ⟨object, hsame.trans hobject, hcreates⟩
      · rw [hnone] at hobject
        cases hobject
  | replace resource' key' object' =>
    simp only [World.step, forget] at horigin ⊢
    split at horigin
    · cases horigin
    · rename_i hother
      rw [Store.get?_put, if_neg hother]
      exact h resource key attempt horigin
  | remove resource' key' =>
    simp only [World.step, forget] at horigin ⊢
    split at horigin
    · cases horigin
    · rename_i hother
      rw [Store.get?_remove, if_neg hother]
      exact h resource key attempt horigin

theorem Sound.after {world : World} (h : world.Sound) (happenings : List Happening) :
    (world.after happenings).Sound :=
  List.foldlRecOn happenings World.step h fun _ hworld happening _ => hworld.step happening

/-- The worlds that begin with an empty cluster. -/
def Reachable (world : World) : Prop :=
  ∃ setting happenings, world = after { setting } happenings

theorem Reachable.sound {world : World} (h : world.Reachable) : world.Sound := by
  obtain ⟨setting, happenings, rfl⟩ := h
  refine Sound.after (fun resource key attempt horigin => ?_) happenings
  cases horigin

/-- Every config map of a workflow holds the text of the pod that is there, if attempts have stored
both. -/
def Consistent (world : World) : Prop :=
  ∀ space name map pod a b,
    world.store.get? .configMaps (Plan.objectKey space name .configMaps) = some map →
    world.store.get? .pods (Plan.objectKey space name .pods) = some pod →
    world.origin .configMaps (Plan.objectKey space name .configMaps) = some a →
    a.workflow.metadata.namespaceName = some space ∧ a.workflow.name = name →
    world.origin .pods (Plan.objectKey space name .pods) = some b →
    b.workflow.metadata.namespaceName = some space ∧ b.workflow.name = name →
    Plan.configText? map = some (Yaml.render pod)

end World

/-- What an attempt has created belongs to its workflow. -/
theorem Attempt.Creates.exists_plan {attempt : Attempt} {space name : String} {resource : Resource}
    {object : Json} (h : attempt.Creates resource (Plan.objectKey space name resource) object) :
    (attempt.workflow.metadata.namespaceName = some space ∧ attempt.workflow.name = name) ∧
      ∃ plan, attempt.plan = .ok plan ∧ object = plan.object resource := by
  obtain ⟨space', plan, hspace, hplan, hkey, hobject⟩ := h
  obtain ⟨rfl, rfl⟩ := Plan.objectKey_inj hkey
  exact ⟨⟨hspace, rfl⟩, plan, hplan, hobject⟩

/-- The operator starts anew in another setting after it could not create the pod of a workflow. -/
def restartAfterFailure (setting : Setting) (workflow : Workflow) : List Happening :=
  [.reconcile workflow (refusing .pods), .restart setting, .reconcile workflow fun _ => none]

/-- After a restart the pod is compiled in the new setting, and the config map is left as it is. -/
theorem restartAfterFailure_spec {setting setting' : Setting} {workflow : Workflow} {space : String}
    {plan plan' : Plan} (hspace : workflow.metadata.namespaceName = some space)
    (hunsettled : isSettled workflow = false)
    (hplan : (Attempt.mk setting workflow none).plan = .ok plan)
    (hplan' : (Attempt.mk setting' workflow none).plan = .ok plan') :
    let world := World.after { setting } (restartAfterFailure setting' workflow)
    let mapKey := Plan.objectKey space workflow.name .configMaps
    let podKey := Plan.objectKey space workflow.name .pods
    (world.store.get? .configMaps mapKey = some (plan.object .configMaps) ∧
      world.origin .configMaps mapKey = some ⟨setting, workflow, none⟩) ∧
    world.store.get? .pods podKey = some (plan'.object .pods) ∧
      world.origin .pods podKey = some ⟨setting', workflow, none⟩ := by
  intro world mapKey podKey
  have hname : plan.name = workflow.name := compile_name hplan
  have hname' : plan'.name = workflow.name := compile_name hplan'
  have hread : Attempt.under (Store.serveFaulty (refusing .pods)) setting workflow {} =
      ⟨setting, workflow, none⟩ := by
    rw [Attempt.under_eq hspace rfl]
    rfl
  have hfirst : ((reconcile setting workflow).run (Store.serveFaulty (refusing .pods)) {}).store =
      Store.offer {} .configMaps mapKey (plan.object .configMaps) := by
    rw [reconcile_run_store hspace hunsettled (hread ▸ hplan) rfl, Plan.request, Plan.offer, hname]
    rfl
  have hread' : Attempt.under (Store.serveFaulty fun _ => none) setting' workflow
      (Store.offer {} .configMaps mapKey (plan.object .configMaps)) =
        ⟨setting', workflow, none⟩ := by
    rw [Attempt.under_eq hspace rfl, documentIn_offer]
    rfl
  have hsecond : ((reconcile setting' workflow).run (Store.serveFaulty fun _ => none)
      (Store.offer {} .configMaps mapKey (plan.object .configMaps))).store =
        (Store.offer {} .configMaps mapKey (plan.object .configMaps)).offer .pods podKey
          (plan'.object .pods) := by
    rw [reconcile_run_store hspace hunsettled (hread' ▸ hplan') rfl, Plan.request, Plan.offer,
      hname', Store.serveFaulty_none, Store.serve_create, Store.offer_offer]
  simp only [world, World.after, restartAfterFailure, List.foldl, World.step, hfirst, hread,
    hsecond, hread']
  simp [Store.get?_offer]

private theorem exists_plans_with_other_text : ∃ plan plan',
    (plainAttempt "old" "w").plan = .ok plan ∧ (plainAttempt "new" "w").plan = .ok plan' ∧
      Yaml.render (plan.object .pods) ≠ Yaml.render (plan'.object .pods) := by
  have hne : (plainAttempt "old" "w").plan.map (fun plan => Yaml.document (plan.object .pods)) ≠
      (plainAttempt "new" "w").plan.map fun plan => Yaml.document (plan.object .pods) := by
    decide +kernel
  obtain ⟨plan, hplan⟩ := exists_plan_plainAttempt "old" "w"
  obtain ⟨plan', hplan'⟩ := exists_plan_plainAttempt "new" "w"
  refine ⟨plan, plan', hplan, hplan', fun heq => hne ?_⟩
  rw [hplan, hplan', Except.map, Except.map, String.ofList_injective heq]

/-- The text in a config map need not be that of the pod that is there. -/
theorem not_forall_consistent : ¬ ∀ world : World, world.Reachable → world.Consistent := by
  intro h
  obtain ⟨plan, plan', hplan, hplan', hne⟩ := exists_plans_with_other_text
  obtain ⟨⟨hmap, ha⟩, hpod, hb⟩ := restartAfterFailure_spec rfl rfl hplan hplan'
  have htext := h _ ⟨_, _, rfl⟩ _ _ _ _ _ _ hmap hpod ha ⟨rfl, rfl⟩ hb ⟨rfl, rfl⟩
  exact hne (Option.some.inj (plan.configText?_object.symm.trans htext))

/-- The config map of a workflow holds the text of the pod its own attempt has compiled, and the pod
is the one its own attempt has compiled. The text is that of the pod if both have the same plan. -/
theorem configText_of_origin {world : World} (hworld : world.Reachable) {space name : String}
    {map pod : Json} {a b : Attempt}
    (hmap : world.store.get? .configMaps (Plan.objectKey space name .configMaps) = some map)
    (hpod : world.store.get? .pods (Plan.objectKey space name .pods) = some pod)
    (ha : world.origin .configMaps (Plan.objectKey space name .configMaps) = some a)
    (hb : world.origin .pods (Plan.objectKey space name .pods) = some b) :
    (a.workflow.metadata.namespaceName = some space ∧ a.workflow.name = name) ∧
    (b.workflow.metadata.namespaceName = some space ∧ b.workflow.name = name) ∧
    (∃ plan, a.plan = .ok plan ∧
      Plan.configText? map = some (Yaml.render (plan.object .pods))) ∧
    (∃ plan, b.plan = .ok plan ∧ pod = plan.object .pods) ∧
    (a.plan = b.plan → Plan.configText? map = some (Yaml.render pod)) := by
  obtain ⟨map', hmap', hcreated⟩ := hworld.sound _ _ _ ha
  obtain ⟨pod', hpod', hcreated'⟩ := hworld.sound _ _ _ hb
  cases hmap.symm.trans hmap'
  cases hpod.symm.trans hpod'
  obtain ⟨hworkflow, plan, hplan, rfl⟩ := hcreated.exists_plan
  obtain ⟨hworkflow', plan', hplan', rfl⟩ := hcreated'.exists_plan
  have htext := plan.configText?_object
  refine ⟨hworkflow, hworkflow', ⟨plan, hplan, htext⟩, ⟨plan', hplan', rfl⟩, fun hsame => ?_⟩
  cases hplan.symm.trans (hsame.trans hplan')
  exact htext

theorem configText_of_restartAfterFailure :
    let world := World.after { setting := plainSetting "old" }
      (restartAfterFailure (plainSetting "new") (plainWorkflow "w"))
    ∃ map pod,
      world.store.get? .configMaps (Plan.objectKey "space" "w" .configMaps) = some map ∧
      world.store.get? .pods (Plan.objectKey "space" "w" .pods) = some pod ∧
      Plan.configText? map ≠ some (Yaml.render pod) ∧
      (∃ plan, (plainAttempt "old" "w").plan = .ok plan ∧
        Plan.configText? map = some (Yaml.render (plan.object .pods))) ∧
      ∃ plan, (plainAttempt "new" "w").plan = .ok plan ∧ pod = plan.object .pods := by
  obtain ⟨plan, plan', hplan, hplan', hne⟩ := exists_plans_with_other_text
  obtain ⟨⟨hmap, ha⟩, hpod, hb⟩ := restartAfterFailure_spec rfl rfl hplan hplan'
  obtain ⟨-, -, htext, hpod', -⟩ := configText_of_origin ⟨_, _, rfl⟩ hmap hpod ha hb
  refine ⟨_, _, hmap, hpod, fun heq => hne ?_, htext, hpod'⟩
  exact Option.some.inj (plan.configText?_object.symm.trans heq)

end WorkflowPod.Reconcile
