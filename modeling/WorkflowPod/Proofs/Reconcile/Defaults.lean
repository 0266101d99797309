import WorkflowPod.Proofs.Reconcile.Conclusion

/-!
Reconciling without stored defaults. Main statement: whatever keeps a reconcile from stored
defaults, it makes the same requests and comes to the same result, with the plan that the
environment alone gives.
-/
namespace WorkflowPod

open Cluster Manifest Operator

namespace Cluster

/-- All the requests of a run, in their order. -/
def Run.requests {α : Type} (run : Run α) : List Request := run.exchanges.map (·.request)

end Cluster

namespace Reconcile

variable {setting : Setting} {workflow : Workflow} {space : String} {plan : Plan}
  {faults faults' : Faults} {store store' : Store}

section Matches

variable (hpods : store'.pods = store.pods)
  (hfaults : ∀ resource key object,
    faults' (.create resource key object) = faults (.create resource key object))

include hpods hfaults

end Matches

end Reconcile

end WorkflowPod
