import WorkflowPod.Manifest.Object
import WorkflowPod.Workflow.Spec
import WorkflowPod.Workflow.Status

/-! Workflows: what is asked for and how far it has come. -/
namespace WorkflowPod

open Json Manifest

structure Workflow where
  metadata : Metadata
  spec : Workflow.Spec
  status : Option Workflow.Status := none
  deriving DecidableEq

namespace Workflow

def objectType : ObjectType := ⟨"flowpod.dev/v1alpha1", "Workflow"⟩

/-- Workflows as JSON. They are written with their type, but read whatever type they name. -/
def codec : Codec Workflow where
  encode w := .obj (("apiVersion", .str objectType.apiVersion) :: ("kind", .str objectType.kind) ::
    ("metadata", Metadata.codec.encode w.metadata) :: ("spec", Spec.codec.encode w.spec) ::
    (w.status.map fun status => ("status", Status.codec.encode status)).toList)
  decode? value := do
    let (metadata, spec, status, ()) ← match value with
      | .obj entries => Members.readObject .refused members entries
      | .arr elements => if elements.length = 3 then members.readArray elements else none
      | _ => none
    return { metadata, spec, status }
where
  /-- The members that are read. -/
  members := Members.cons (.required "metadata" Metadata.codec) <|
    .cons (.required "spec" Spec.codec) <| .cons (.optional "status" Status.codec) .nil

def name (w : Workflow) : String := w.metadata.anyName

/-- Whether the monitor has reported on a workflow. -/
def hasRun (w : Workflow) : Bool := (w.status.bind fun s => given s.updated).isSome

/-- A workflow as the owner of what is created for it, if it has a name and an identity. -/
def ownerReference? (w : Workflow) : Option OwnerReference :=
  match w.metadata.name, w.metadata.uid with
  | some name, some uid =>
    let ⟨apiVersion, kind⟩ := objectType
    some { apiVersion, kind, name, uid, controller := some true }
  | _, _ => none

end Workflow

end WorkflowPod
