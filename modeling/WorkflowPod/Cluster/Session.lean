import WorkflowPod.Cluster.Store

/-!
Sessions: programs that make requests one after the other, each knowing the answers before it. What
a session does depends on the cluster only through those answers.
-/
namespace WorkflowPod.Cluster

inductive Session (α : Type) where
  /-- It is over. -/
  | done (result : α)
  /-- It makes a request and goes on with the answer. -/
  | ask (request : Request) (next : Reply → Session α)

/-- One request of a session with its answer. -/
structure Exchange where
  request : Request
  reply : Reply

/-- A session that has come to its end. -/
structure Run (α : Type) where
  store : Store
  exchanges : List Exchange
  result : α

def Session.run {α : Type} (serve : Store → Request → Store × Reply) :
    Session α → Store → Run α
  | done result, store => ⟨store, [], result⟩
  | ask request next, store =>
    let (store, reply) := serve store request
    let rest := (next reply).run serve store
    { rest with exchanges := ⟨request, reply⟩ :: rest.exchanges }

end WorkflowPod.Cluster
