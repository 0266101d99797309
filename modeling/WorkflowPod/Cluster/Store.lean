import WorkflowPod.Cluster.Request
import WorkflowPod.Json.Reader

/-!
The objects of a cluster. An object is kept only under a key that has none, and nothing but its
removal takes it away.
-/
namespace WorkflowPod.Cluster

/-- Objects by resource and key. -/
structure Store where
  configMaps : Dict Key Json := {}
  pods : Dict Key Json := {}

namespace Store

def objects (store : Store) : Resource → Dict Key Json
  | .configMaps => store.configMaps
  | .pods => store.pods

def modify (store : Store) (resource : Resource) (change : Dict Key Json → Dict Key Json) : Store :=
  match resource with
  | .configMaps => { store with configMaps := change store.configMaps }
  | .pods => { store with pods := change store.pods }

def get? (store : Store) (resource : Resource) (key : Key) : Option Json :=
  (store.objects resource).get? key

def put (store : Store) (resource : Resource) (key : Key) (object : Json) : Store :=
  store.modify resource (·.insert key object)

def remove (store : Store) (resource : Resource) (key : Key) : Store :=
  store.modify resource (·.erase key)

def listing (store : Store) (resource : Resource) : List String :=
  ((store.objects resource).keys.map Key.render).mergeSort

def serve (store : Store) : Request → Store × Reply
  | .read key =>
    match store.get? .configMaps key with
    | some object => (store, .answer 200 (some object))
    | none => (store, .refusal 404 ("configmaps \"" ++ key.name ++ "\" not found"))
  | .create resource key object =>
    if (store.get? resource key).isSome then
      (store, .refusal 409 (resource.name ++ " \"" ++ key.name ++ "\" already exists"))
    else (store.put resource key object, .answer 201 (some object))
  | .publish _ => (store, .answer 201 (some (.obj [])))

end Store

/-- What comes in place of an answer. -/
inductive Disturbance where
  /-- A status. -/
  | status (code : Nat)
  /-- A text as the body of an answer. -/
  | body (text : String)
  deriving DecidableEq, Repr

/-- A status in place of an answer: a refusal, unless the status stands for success. -/
def Reply.ofStatus (code : Nat) (message : String) : Reply :=
  if 400 ≤ code ∧ code < 600 then .refusal code message
  else .answer code (some (.obj [("kind", .str "Status"), ("apiVersion", .str "v1")]))

def Disturbance.reply : Disturbance → Reply
  | status code => .ofStatus code "injected"
  | body text => .answer 200 (Json.parse? text)

structure Disturbances where
  read : Option Disturbance := none
  createConfigMap : Option Disturbance := none
  createPod : Option Disturbance := none
  publish : Option Disturbance := none
  deriving DecidableEq, Repr

def Disturbances.of (d : Disturbances) : Request → Option Disturbance
  | .read _ => d.read
  | .create .configMaps .. => d.createConfigMap
  | .create .pods .. => d.createPod
  | .publish _ => d.publish

/-- Answers a request, unless it is disturbed; then nothing is kept. -/
def Store.serveDisturbed (disturbances : Disturbances) (store : Store) (request : Request) :
    Store × Reply :=
  match disturbances.of request with
  | some disturbance => (store, disturbance.reply)
  | none => store.serve request

end WorkflowPod.Cluster
