import WorkflowPod.Manifest.Container
import WorkflowPod.Workflow.Spec

/-! What the containers of a workflow pod may use. Each is granted exactly its limit. -/
namespace WorkflowPod.Workflow

/-- What a container does. -/
inductive Role where
  | fetch
  | monitor
  | launcher
  deriving DecidableEq, Repr

namespace Role

/-- The processor time a container has unless the workflow sets it. -/
def defaultCpu : Role → String
  | fetch | monitor => "100m"
  | launcher => "1000m"

/-- The memory a container has unless the workflow sets it. -/
def defaultMemory : Role → String
  | fetch | monitor => "200Mi"
  | launcher => "500Mi"

def override? (role : Role) (overrides : Overrides) : Option Amounts :=
  match role with
  | fetch => overrides.fetch
  | monitor => overrides.monitor
  | launcher => overrides.launcher

/-- Processor time and memory of a container, each from the workflow if it is set there. -/
def requirements (role : Role) (overrides : Option Overrides) : Manifest.Requirements :=
  let amounts : Amounts := ((overrides.bind role.override?).getD {})
  let list : Dict String String := Dict.ofList
    [("cpu", (given amounts.cpu).getD role.defaultCpu),
      ("memory", (given amounts.memory).getD role.defaultMemory)]
  { limits := some list, requests := some list }

end Role

end WorkflowPod.Workflow
