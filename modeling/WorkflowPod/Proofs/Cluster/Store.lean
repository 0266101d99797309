import WorkflowPod.Cluster.Session
import WorkflowPod.Proofs.Dict

/-!
The objects of a cluster by their look-ups, and how serving a request changes them: an object is
kept where there was none, and nothing else happens. A cluster may also fail to serve a request.
-/
namespace WorkflowPod.Cluster

namespace Store

variable (store : Store) (resource : Resource) (key : Key) (object : Json)

@[simp] theorem get?_empty : get? {} resource key = none := by
  cases resource <;> rfl

theorem get?_put (resource' : Resource) (key' : Key) :
    (store.put resource key object).get? resource' key' =
      if resource' = resource ∧ key' = key then some object else store.get? resource' key' := by
  cases resource <;> cases resource' <;> simp [put, modify, get?, objects, Dict.get?_insert]

theorem get?_remove (resource' : Resource) (key' : Key) :
    (store.remove resource key).get? resource' key' =
      if resource' = resource ∧ key' = key then none else store.get? resource' key' := by
  cases resource <;> cases resource' <;> simp [remove, modify, get?, objects, Dict.get?_erase]

theorem ext_get? {store other : Store}
    (h : ∀ resource key, store.get? resource key = other.get? resource key) : store = other := by
  have hmaps : store.configMaps = other.configMaps := Dict.ext_get? (h .configMaps)
  have hpods : store.pods = other.pods := Dict.ext_get? (h .pods)
  cases store
  cases other
  cases hmaps
  cases hpods
  rfl

/-- The store with an object under a key unless there is one already. -/
def offer : Store := store.modify resource (·.offer key object)

theorem get?_offer (resource' : Resource) (key' : Key) :
    (store.offer resource key object).get? resource' key' =
      if resource' = resource ∧ key' = key then (store.get? resource key).or (some object)
      else store.get? resource' key' := by
  cases resource <;> cases resource' <;> simp [offer, modify, get?, objects, Dict.get?_offer]

/-- What is there is not replaced. -/
theorem get?_offer_of_eq_some {resource' : Resource} {key' : Key} {other : Json}
    (h : store.get? resource' key' = some other) :
    (store.offer resource key object).get? resource' key' = some other := by
  rw [get?_offer]
  split
  · rename_i heq
    rw [← heq.1, ← heq.2, h]
    rfl
  · exact h

theorem offer_offer (other : Json) :
    (store.offer resource key object).offer resource key other =
      store.offer resource key object := by
  cases resource <;> simp [offer, modify, Dict.offer_offer]

/-- Offers of different resources do not meet. -/
theorem offer_comm {resource resource' : Resource} (h : resource ≠ resource') (key key' : Key)
    (object object' : Json) :
    (store.offer resource key object).offer resource' key' object' =
      (store.offer resource' key' object').offer resource key object := by
  cases resource <;> cases resource' <;> first | exact absurd rfl h | rfl

theorem offer_of_isSome (h : (store.get? resource key).isSome) :
    store.offer resource key object = store := by
  cases resource <;> unfold get? at h <;> simp_all [offer, modify, objects, Dict.offer]

theorem offer_of_eq_none (h : store.get? resource key = none) :
    store.offer resource key object = store.put resource key object := by
  cases resource <;> unfold get? at h <;> simp_all [offer, put, modify, objects, Dict.offer]

/-- An object is kept, and the answer tells whether there was none before. -/
theorem serve_create :
    store.serve (.create resource key object) = (store.offer resource key object,
      if (store.get? resource key).isSome then
        .refusal 409 (resource.name ++ " \"" ++ key.name ++ "\" already exists")
      else .answer 201 (some object)) := by
  rw [serve]
  split
  · rename_i h
    rw [store.offer_of_isSome resource key object h]
  · rename_i h
    rw [store.offer_of_eq_none resource key object (by simpa using h)]

@[simp] theorem serve_read_store : (store.serve (.read key)).1 = store := by
  rw [serve]
  split <;> rfl

/-- Serving a request neither replaces nor removes an object. -/
theorem get?_serve_of_eq_some {request : Request} {store : Store} {resource : Resource} {key : Key}
    {object : Json} (h : store.get? resource key = some object) :
    (store.serve request).1.get? resource key = some object := by
  cases request with
  | read => rwa [serve_read_store]
  | create resource' key' object' =>
    rw [serve_create]
    exact store.get?_offer_of_eq_some resource' key' object' h
  | publish => exact h

end Store

/-- Replies that come in place of the cluster's, by request. -/
abbrev Faults := Request → Option Reply

/-- Answers a request, unless a fault comes in between; then nothing is kept. -/
def Store.serveFaulty (faults : Faults) (store : Store) (request : Request) : Store × Reply :=
  match faults request with
  | some reply => (store, reply)
  | none => store.serve request

theorem Store.serveFaulty_none : serveFaulty (fun _ => none) = serve := rfl

/-- A request is served, or else nothing changes. -/
theorem Store.serveFaulty_cases (faults : Faults) (store : Store) (request : Request) :
    store.serveFaulty faults request = store.serve request ∨
      ∃ reply, store.serveFaulty faults request = (store, reply) := by
  unfold serveFaulty
  cases faults request with
  | none => exact .inl rfl
  | some reply => exact .inr ⟨reply, rfl⟩

@[simp] theorem Store.serveFaulty_read_store (faults : Faults) (store : Store) (key : Key) :
    (store.serveFaulty faults (.read key)).1 = store := by
  rcases store.serveFaulty_cases faults (.read key) with h | ⟨reply, h⟩
  · rw [h, serve_read_store]
  · rw [h]

/-- What disturbs requests, as faults. -/
def Disturbances.faults (disturbances : Disturbances) : Faults := fun request =>
  (disturbances.of request).map Disturbance.reply

theorem Store.serveDisturbed_eq (disturbances : Disturbances) (store : Store) (request : Request) :
    store.serveDisturbed disturbances request = store.serveFaulty disturbances.faults request := by
  unfold serveDisturbed serveFaulty Disturbances.faults
  cases h : disturbances.of request <;> simp

section Session

variable {α : Type} (serve : Store → Request → Store × Reply) (request : Request)
  (next : Reply → Session α) (store : Store)

theorem Session.run_ask_store :
    ((Session.ask request next).run serve store).store =
      ((next (serve store request).2).run serve (serve store request).1).store := rfl

theorem Session.run_ask_result :
    ((Session.ask request next).run serve store).result =
      ((next (serve store request).2).run serve (serve store request).1).result := rfl

theorem Session.run_ask_exchanges :
    ((Session.ask request next).run serve store).exchanges =
      ⟨request, (serve store request).2⟩ ::
        ((next (serve store request).2).run serve (serve store request).1).exchanges := rfl

end Session

end WorkflowPod.Cluster
