import WorkflowPod.Proofs.Plan

/-!
What can be told from the exchanges of a session alone: which objects it asked for, which of them a
cluster accepted, and so what a cluster that does not lie about them has in the end.
-/
namespace WorkflowPod.Cluster

open Manifest

/-- Whether a body is an object of a resource. -/
def Resource.Reads : Resource → Json → Prop
  | .configMaps, body => (ConfigMap.codec.decode? body).isSome
  | .pods, body => (Pod.codec.decode? body).isSome

namespace Reply

/-- An object was created: the body of the answer is an object of its resource. -/
def Creates (reply : Reply) (resource : Resource) : Prop :=
  ∃ status body, reply = answer status (some body) ∧ resource.Reads body

/-- An object was not created because there is one already. -/
def Conflicts (reply : Reply) : Prop := ∃ message, reply = refusal 409 message

/-- The object is there, whoever created it. -/
def Accepts (reply : Reply) (resource : Resource) : Prop :=
  reply.Creates resource ∨ reply.Conflicts

theorem created_eq_ok_true_iff {α : Type} (c : Json.Codec α) (reply : Reply) :
    reply.created c = .ok true ↔
      ∃ status body, reply = answer status (some body) ∧ (c.decode? body).isSome := by
  cases reply with
  | refusal code message =>
    by_cases hcode : code = 409
    · subst hcode
      simp [created, result]
    · simp [created, result, hcode]
  | answer status body =>
    cases body with
    | none => simp [created, result]
    | some body => cases h : c.decode? body <;> simp [created, result, h]

theorem created_eq_ok_false_iff {α : Type} (c : Json.Codec α) (reply : Reply) :
    reply.created c = .ok false ↔ reply.Conflicts := by
  cases reply with
  | refusal code message =>
    by_cases hcode : code = 409
    · subst hcode
      simp [created, result, Conflicts]
    · simp [created, result, Conflicts, hcode]
  | answer status body =>
    cases h : body.bind c.decode? <;> simp [created, result, Conflicts, h]

theorem createdAs_eq_ok_true_iff (reply : Reply) (resource : Resource) :
    reply.createdAs resource = .ok true ↔ reply.Creates resource := by
  cases resource with
  | configMaps => exact created_eq_ok_true_iff ConfigMap.codec reply
  | pods => exact created_eq_ok_true_iff Pod.codec reply

theorem createdAs_eq_ok_false_iff (reply : Reply) (resource : Resource) :
    reply.createdAs resource = .ok false ↔ reply.Conflicts := by
  cases resource with
  | configMaps => exact created_eq_ok_false_iff ConfigMap.codec reply
  | pods => exact created_eq_ok_false_iff Pod.codec reply

theorem accepts_iff (reply : Reply) (resource : Resource) :
    reply.Accepts resource ↔ ∃ isNew, reply.createdAs resource = .ok isNew := by
  rw [Bool.exists_bool, createdAs_eq_ok_true_iff, createdAs_eq_ok_false_iff, Accepts, or_comm]

end Reply

/-- What is asked of a cluster about which object. -/
inductive Call where
  | get (resource : Resource) (key : Key)
  | post (resource : Resource) (key : Key)
  deriving DecidableEq, Repr

/-- The call a request makes, unless it is about an event. -/
def Request.call? : Request → Option Call
  | .read key => some (.get .configMaps key)
  | .create resource key _ => some (.post resource key)
  | .publish _ => none

/-- The calls of a run, in their order. -/
def Run.calls {α : Type} (run : Run α) : List Call :=
  run.exchanges.filterMap (·.request.call?)

/-- The exchanges in which requests are made of `serve`, from one store to another. -/
def Served (serve : Store → Request → Store × Reply) : Store → List Exchange → Store → Prop
  | store, [], final => final = store
  | store, exchange :: rest, final =>
    exchange.reply = (serve store exchange.request).2 ∧
      Served serve (serve store exchange.request).1 rest final

theorem Session.run_served {α : Type} (serve : Store → Request → Store × Reply)
    (session : Session α) (store : Store) :
    Served serve store (session.run serve store).exchanges (session.run serve store).store := by
  induction session generalizing store with
  | done result => rfl
  | ask request next ih => exact ⟨rfl, ih _ _⟩

/-- Faults that do not pass for an answer that the object is there. -/
def Faults.AreHonest (faults : Faults) : Prop :=
  ∀ resource key object reply, faults (.create resource key object) = some reply →
    ¬reply.Accepts resource

section Served

variable {faults : Faults} {store final : Store} {exchanges : List Exchange}

theorem Store.get?_serveFaulty_of_eq_some (faults : Faults) {store : Store} {resource : Resource}
    {key : Key} {object : Json} (h : store.get? resource key = some object) (request : Request) :
    (store.serveFaulty faults request).1.get? resource key = some object := by
  rcases store.serveFaulty_cases faults request with hserve | ⟨reply, hserve⟩
  · rw [hserve]
    exact get?_serve_of_eq_some h
  · rw [hserve]
    exact h

/-- Whatever is asked, no object is replaced or removed. -/
theorem Served.get?_of_eq_some (hserved : Served (Store.serveFaulty faults) store exchanges final)
    {resource : Resource} {key : Key} {object : Json}
    (h : store.get? resource key = some object) : final.get? resource key = some object := by
  induction exchanges generalizing store with
  | nil =>
    cases hserved
    exact h
  | cons exchange rest ih =>
    exact ih hserved.2 (Store.get?_serveFaulty_of_eq_some faults h exchange.request)

/-- Serving a request adds no object but the one to be created. -/
theorem Store.eq_create_of_get?_serveFaulty {request : Request} {resource : Resource} {key : Key}
    {object : Json} (hnone : store.get? resource key = none)
    (hsome : (store.serveFaulty faults request).1.get? resource key = some object) :
    request = .create resource key object := by
  rcases store.serveFaulty_cases faults request with hserve | ⟨reply, hserve⟩
  · rw [hserve] at hsome
    cases request with
    | read key' =>
      rw [serve_read_store, hnone] at hsome
      cases hsome
    | publish event =>
      have hstore : (store.serve (.publish event)).1 = store := rfl
      rw [hstore, hnone] at hsome
      cases hsome
    | create resource' key' object' =>
      rw [serve_create, get?_offer] at hsome
      split at hsome
      · rename_i heq
        obtain ⟨rfl, rfl⟩ := heq
        rw [hnone] at hsome
        cases hsome
        rfl
      · rw [hnone] at hsome
        cases hsome
  · rw [hserve, hnone] at hsome
    cases hsome

/-- A new object was asked for. -/
theorem Served.exists_create_of_new
    (hserved : Served (Store.serveFaulty faults) store exchanges final) {resource : Resource}
    {key : Key} {object : Json} (hnone : store.get? resource key = none)
    (hsome : final.get? resource key = some object) :
    ∃ reply, Exchange.mk (.create resource key object) reply ∈ exchanges := by
  induction exchanges generalizing store with
  | nil =>
    cases hserved
    rw [hnone] at hsome
    cases hsome
  | cons exchange rest ih =>
    cases hnext : (store.serveFaulty faults exchange.request).1.get? resource key with
    | none =>
      obtain ⟨reply, hmem⟩ := ih hserved.2 hnext
      exact ⟨reply, List.mem_cons_of_mem _ hmem⟩
    | some object' =>
      have hkept := hserved.2.get?_of_eq_some hnext
      rw [hsome] at hkept
      cases hkept
      have hrequest := Store.eq_create_of_get?_serveFaulty hnone hnext
      exact ⟨exchange.reply, by rw [← hrequest]; exact List.mem_cons_self⟩

/-- An object that a cluster accepts without lying is there in the end. -/
theorem Served.isSome_get?_of_accepts (hfaults : faults.AreHonest)
    (hserved : Served (Store.serveFaulty faults) store exchanges final) {resource : Resource}
    {key : Key} {object : Json} {reply : Reply}
    (hmem : Exchange.mk (.create resource key object) reply ∈ exchanges)
    (haccepts : reply.Accepts resource) : (final.get? resource key).isSome := by
  induction exchanges generalizing store with
  | nil => cases hmem
  | cons exchange rest ih =>
    rcases List.mem_cons.1 hmem with rfl | hmem
    · obtain ⟨hreply, hrest⟩ := hserved
      -- The request was served: a fault would not have been taken for an acceptance.
      have hserve : store.serveFaulty faults (.create resource key object) =
          store.serve (.create resource key object) := by
        unfold Store.serveFaulty at hreply ⊢
        cases hfault : faults (.create resource key object) with
        | none => rfl
        | some fault =>
          rw [hfault] at hreply
          cases hreply
          exact absurd haccepts (hfaults _ _ _ _ hfault)
      have hkept : ((store.serveFaulty faults (.create resource key object)).1.get? resource
          key).isSome := by
        rw [hserve, Store.serve_create, Store.get?_offer, if_pos ⟨rfl, rfl⟩]
        cases store.get? resource key <;> rfl
      obtain ⟨object', hobject'⟩ := Option.isSome_iff_exists.1 hkept
      rw [hrest.get?_of_eq_some hobject']
      rfl
    · exact ih hserved.2 hmem

end Served

end WorkflowPod.Cluster
