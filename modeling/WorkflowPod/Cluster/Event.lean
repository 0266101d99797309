import WorkflowPod.Workflow.Basic

/-! Events: what a controller has to say about an object. -/
namespace WorkflowPod.Cluster

/-- Whether an event is about a fault. -/
inductive Severity where
  | normal
  | warning
  deriving DecidableEq, Repr

def Severity.name : Severity → String
  | normal => "Normal"
  | warning => "Warning"

structure ObjectReference where
  type : Manifest.ObjectType
  name : Option String
  space : Option String
  uid : Option String
  deriving DecidableEq, Repr

def ObjectReference.ofWorkflow (w : Workflow) : ObjectReference where
  type := Workflow.objectType
  name := w.metadata.name
  space := w.metadata.namespaceName
  uid := w.metadata.uid

/-- Who says it: a controller, and which of its processes. -/
structure Reporter where
  controller : String
  process : String
  deriving DecidableEq, Repr

structure Event where
  severity : Severity
  /-- Why it is said, in one word. -/
  reason : String
  /-- What was done, in one word. -/
  action : String
  note : String
  regarding : ObjectReference
  reporter : Reporter
  deriving DecidableEq, Repr

def Event.space (e : Event) : String := e.regarding.space.getD "default"

end WorkflowPod.Cluster
