import WorkflowPod.Json.Pointer
import WorkflowPod.Main
import WorkflowPod.Package.Fetch
import WorkflowPod.Proofs.Reconcile.AtMostOnce
import WorkflowPod.Proofs.Reconcile.Convergence
import WorkflowPod.Proofs.Reconcile.Defaults
import WorkflowPod.Proofs.Reconcile.Independence
import WorkflowPod.Proofs.Reconcile.Provenance
import WorkflowPod.Reconcile
import WorkflowPod.Workflow.Normal
import WorkflowPod.Workflow.Resources
import WorkflowPod.Proofs.Dict
import WorkflowPod.Proofs.Workflow.Codec
import WorkflowPod.Proofs.Text.Shell
import WorkflowPod.Proofs.Package.Fetch
import WorkflowPod.Proofs.Compile.Normal
import WorkflowPod.Proofs.Compile.Blank
import WorkflowPod.Proofs.Compile.Credentials
import WorkflowPod.Proofs.Config
import WorkflowPod.Proofs.Compile.Location
import WorkflowPod.Proofs.Path.Reference
import WorkflowPod.Proofs.Workflow.Delivery
import WorkflowPod.Proofs.Compile.Delivery
import WorkflowPod.Proofs.Package.Remote
import WorkflowPod.Proofs.Package.Classification
import WorkflowPod.Proofs.Operator.Defaults
import WorkflowPod.Proofs.Operator.Environment
import WorkflowPod.Proofs.Path.Separator
import WorkflowPod.Proofs.Path.Canonical
import WorkflowPod.Proofs.Path.Unescape
import WorkflowPod.Proofs.Path.Join
import WorkflowPod.Proofs.Path.LastElement
import WorkflowPod.Proofs.Compile.Resources
