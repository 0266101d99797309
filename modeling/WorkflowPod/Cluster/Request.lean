import WorkflowPod.Cluster.Event
import WorkflowPod.Cluster.Key

/-! What is asked of a cluster, and what it answers. -/
namespace WorkflowPod.Cluster

/-- The kinds of objects a cluster keeps here. -/
inductive Resource where
  | configMaps
  | pods
  deriving DecidableEq, Repr

def Resource.name : Resource → String
  | configMaps => "configmaps"
  | pods => "pods"

inductive Request where
  /-- Asks for a config map. -/
  | read (key : Key)
  /-- Asks that an object be kept under a key that has none yet. -/
  | create (resource : Resource) (key : Key) (object : Json)
  /-- Asks that an event be published. -/
  | publish (event : Event)

inductive Reply where
  /-- The request is refused. -/
  | refusal (code : Nat) (message : String)
  /-- The request is answered; there is no body if its text is not JSON. -/
  | answer (status : Nat) (body : Option Json)

def Reply.status : Reply → Nat
  | refusal code _ => code
  | answer status _ => status

/-- Why a request has no result. -/
inductive Fault where
  /-- It was refused. -/
  | refused (code : Nat) (message : String)
  /-- Its answer is not what was asked for. -/
  | unreadable
  deriving DecidableEq, Repr

def Reply.result {α : Type} (c : Json.Codec α) : Reply → Except Fault α
  | refusal code message => .error (.refused code message)
  | answer _ body =>
    match body.bind c.decode? with
    | some value => .ok value
    | none => .error .unreadable

/-- The result of a request to create: whether the object is new. -/
def Reply.created {α : Type} (c : Json.Codec α) (reply : Reply) : Except Fault Bool :=
  match reply.result c with
  | .ok _ => .ok true
  | .error (.refused 409 _) => .ok false
  | .error fault => .error fault

end WorkflowPod.Cluster
