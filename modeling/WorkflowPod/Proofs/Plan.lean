import WorkflowPod.Proofs.Cluster.Store
import WorkflowPod.Proofs.Manifest.Codec
import WorkflowPod.Reconcile

/-!
The objects of a plan in a cluster: their keys are those of one workflow, a cluster's answers about
them are understood, and the config map holds the text of the pod and no stored defaults.
-/
namespace WorkflowPod

open Cluster Manifest

namespace Plan

/-- The keys of the objects of the workflow `name`. -/
def objectKey (space name : String) : Resource → Key
  | .configMaps => ⟨space, configMapName name⟩
  | .pods => ⟨space, name⟩

/-- The objects of a plan. -/
def object (plan : Plan) : Resource → Json
  | .configMaps => ConfigMap.codec.encode plan.configMap
  | .pods => Pod.codec.encode plan.pod

/-- The request to create an object of a plan. -/
def request (plan : Plan) (space : String) (resource : Resource) : Request :=
  .create resource (objectKey space plan.name resource) (plan.object resource)

/-- A store with an object of a plan unless there is one under its key. -/
def offer (plan : Plan) (space : String) (resource : Resource) (store : Store) : Store :=
  store.offer resource (objectKey space plan.name resource) (plan.object resource)

/-- No two workflows share a key. -/
theorem objectKey_inj {space name space' name' : String} {resource : Resource}
    (h : objectKey space name resource = objectKey space' name' resource) :
    space = space' ∧ name = name' := by
  cases resource with
  | configMaps =>
    simp only [objectKey, configMapName, Key.mk.injEq] at h
    exact ⟨h.1, (String.append_left_inj _).1 h.2⟩
  | pods => simpa [objectKey] using h

theorem metadata_restores (plan : Plan) (name : String) (labels : Option (Dict String String)) :
    Metadata.codec.Restores (plan.metadata name labels) :=
  Metadata.codec_restores rfl rfl

theorem pod_restores (plan : Plan) : Pod.codec.Restores plan.pod :=
  Pod.codec_restores (plan.metadata_restores _ _)

theorem configMap_restores (plan : Plan) : ConfigMap.codec.Restores plan.configMap :=
  ConfigMap.codec_restores (plan.metadata_restores _ _)

/-- The text of a pod in a config map. -/
def configText? (object : Json) : Option String :=
  (ConfigMap.codec.decode? object).bind fun configMap => configMap.data.bind (·.get? configFileKey)

theorem configText?_object (plan : Plan) :
    configText? (plan.object .configMaps) = some (Yaml.render (plan.object .pods)) := by
  unfold configText?
  rw [object, plan.configMap_restores.decode]
  exact (Dict.get?_insert _ _ _ _).trans (if_pos rfl)

end Plan

/-- The result of a request to create an object of a resource. -/
def Cluster.Reply.createdAs (reply : Reply) : Resource → Except Fault Bool
  | .configMaps => reply.created ConfigMap.codec
  | .pods => reply.created Pod.codec

theorem Plan.createdAs_answer (plan : Plan) (resource : Resource) (status : Nat) :
    (Reply.answer status (some (plan.object resource))).createdAs resource = .ok true := by
  cases resource with
  | configMaps =>
    simp [Reply.createdAs, Reply.created, Reply.result, object, plan.configMap_restores.decode]
  | pods => simp [Reply.createdAs, Reply.created, Reply.result, object, plan.pod_restores.decode]

/-- A cluster that serves a request to create an object of a plan says whether there was none. -/
theorem Plan.createdAs_serve (plan : Plan) (resource : Resource) (store : Store) (key : Key) :
    (store.serve (.create resource key (plan.object resource))).2.createdAs resource =
      .ok (store.get? resource key).isNone := by
  rw [Store.serve_create]
  cases h : store.get? resource key with
  | none => exact plan.createdAs_answer resource 201
  | some object => cases resource <;> rfl

namespace Reconcile

/-- The document a cluster has under a key. -/
def documentIn (store : Store) (key : Key) : Option String :=
  storedDocument (store.serve (.read key)).2

theorem documentIn_of_eq_none {store : Store} {key : Key} (h : store.get? .configMaps key = none) :
    documentIn store key = none := by
  unfold documentIn
  rw [Store.serve, h]
  rfl

theorem documentIn_of_eq_some {store : Store} {key : Key} {object : Json}
    (h : store.get? .configMaps key = some object) :
    documentIn store key = storedDocument (.answer 200 (some object)) := by
  unfold documentIn
  rw [Store.serve, h]

/-- The config map of a plan is no better than none to whoever looks for stored defaults. -/
theorem storedDocument_object (plan : Plan) (status : Nat) :
    storedDocument (.answer status (some (plan.object .configMaps))) = none := by
  have hdecode : (Reply.answer status (some (plan.object .configMaps))).result ConfigMap.codec =
      .ok plan.configMap := by
    simp [Reply.result, Plan.object, plan.configMap_restores.decode]
  unfold storedDocument
  rw [hdecode]
  have hkey : documentKey ≠ Plan.configFileKey := by decide
  exact (Dict.get?_insert _ _ _ _).trans (if_neg hkey)

/-- Keeping an object of a plan leaves every stored document as it is. -/
theorem documentIn_offer (store : Store) (resource : Resource) (key : Key) (plan : Plan)
    (key' : Key) :
    documentIn (store.offer resource key (plan.object resource)) key' = documentIn store key' := by
  have hget := store.get?_offer resource key (plan.object resource) .configMaps key'
  cases hold : store.get? .configMaps key' with
  | some object =>
    rw [documentIn_of_eq_some hold,
      documentIn_of_eq_some (store.get?_offer_of_eq_some resource key _ hold)]
  | none =>
    rw [documentIn_of_eq_none hold]
    split at hget
    · rename_i heq
      obtain ⟨rfl, rfl⟩ := heq
      rw [hold] at hget
      exact (documentIn_of_eq_some hget).trans (storedDocument_object plan 200)
    · exact documentIn_of_eq_none (hget.trans hold)

end Reconcile

end WorkflowPod
