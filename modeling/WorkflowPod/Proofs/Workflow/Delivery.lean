import Mathlib.Data.List.Forall2
import WorkflowPod.Proofs.Path.Reference
import WorkflowPod.Proofs.Workflow.Normal

/-!
References once their files have a place. Main statement: the directory a file is delivered to goes
before the reference and into its source, and where it goes elsewhere is said exactly.
-/
namespace WorkflowPod.Workflow

open WorkflowPod.Path

/-- What becomes of a reference whose file is delivered to the directory `root`. -/
structure Delivered (root reference delivered : String) : Prop where
  /-- An absolute path stays. -/
  absolute : isAbsolute reference → delivered = reference
  /-- Any other is put under the directory, as it is written. -/
  relative : ¬isAbsolute reference → delivered = root ++ "/" ++ reference
  /-- Source and target stay what they are, unless the reference lacks a source. -/
  kept : ¬isAbsolute reference →
    (Reference.parse delivered =
        ⟨root ++ "/" ++ (Reference.parse reference).source, (Reference.parse reference).target⟩ ↔
      ¬Reference.LacksSource reference)
  /-- To one that lacks it the directory is the source, and the name is the target. -/
  moved : ∀ name, name ≠ "" → reference = ":" ++ name →
    (Reference.parse reference).target = none →
      Reference.parse delivered = ⟨root ++ "/", some (Reference.unescape name)⟩

namespace Spec

/-- The directories files are delivered to mean the same in a reference and by themselves. -/
theorem delivered_underRoot {root : String} (hcolon : ':' ∉ root.toList)
    (hbackslash : '\\' ∉ root.toList) (reference : String) :
    Delivered root reference (underRoot root reference) where
  absolute h := underRoot_of_absolute h root
  relative h := underRoot_of_relative h root
  kept h := by
    rw [underRoot_of_relative h]
    exact Reference.parse_under_iff hcolon hbackslash reference
  moved name hname hreference htarget := by
    have hrelative : ¬isAbsolute reference := by
      rw [hreference, isAbsolute, String.toList_append]
      exact Bool.false_ne_true
    rw [underRoot_of_relative hrelative]
    subst hreference
    exact Reference.parse_under_of_lacksSource hbackslash hname htarget

theorem forall₂_delivered_map (root : String) (hcolon : ':' ∉ root.toList)
    (hbackslash : '\\' ∉ root.toList) (references : List String) :
    List.Forall₂ (Delivered root) references (references.map (underRoot root)) := by
  rw [List.forall₂_map_right_iff, List.forall₂_same]
  exact fun reference _ => delivered_underRoot hcolon hbackslash reference

/-- Files come from the directory `root` of the bucket if there is one, else from the volume. -/
theorem forall₂_delivered_choice (bucket : Bool) (root : String) (hcolon : ':' ∉ root.toList)
    (hbackslash : '\\' ∉ root.toList) (references : List String) :
    List.Forall₂ (Delivered (if bucket then root else inputRoot)) references
      (references.map (underRoot (if bucket then root else inputRoot))) := by
  cases bucket with
  | false => exact forall₂_delivered_map inputRoot (by decide) (by decide) references
  | true => exact forall₂_delivered_map root hcolon hbackslash references

theorem forall₂_delivered_inputs (spec : Spec) :
    List.Forall₂
      (Delivered (if spec.bucketInput.isSome then "/tmp/s3-root-dir/input" else "/tmp/inputdir"))
      spec.inputs spec.withAbsolutePaths.inputs :=
  forall₂_delivered_choice _ bucketInputRoot (by decide) (by decide) spec.inputs

theorem forall₂_delivered_data (spec : Spec) :
    List.Forall₂
      (Delivered (if spec.bucketInput.isSome then "/tmp/s3-root-dir/data" else "/tmp/inputdir"))
      spec.data spec.withAbsolutePaths.data :=
  forall₂_delivered_choice _ bucketDataRoot (by decide) (by decide) spec.data

theorem forall₂_delivered_variableFiles (spec : Spec) :
    List.Forall₂ (Delivered "/tmp/inputdir") spec.variableFiles
      spec.withAbsolutePaths.variableFiles :=
  forall₂_delivered_map inputRoot (by decide) (by decide) spec.variableFiles

/-- Each file is delivered to one directory, in its place in the list: inputs and data to the
directories of the bucket if there is one, variable files and all others to that of the volume. -/
theorem forall₂_delivered (spec : Spec) :
    let inputRoot :=
      if spec.bucketInput.isSome then "/tmp/s3-root-dir/input" else "/tmp/inputdir"
    let dataRoot := if spec.bucketInput.isSome then "/tmp/s3-root-dir/data" else "/tmp/inputdir"
    List.Forall₂ (Delivered inputRoot) spec.inputs spec.withAbsolutePaths.inputs ∧
      List.Forall₂ (Delivered dataRoot) spec.data spec.withAbsolutePaths.data ∧
      List.Forall₂ (Delivered "/tmp/inputdir") spec.variableFiles
        spec.withAbsolutePaths.variableFiles := by
  intro inputRoot dataRoot
  exact ⟨spec.forall₂_delivered_inputs, spec.forall₂_delivered_data,
    spec.forall₂_delivered_variableFiles⟩

example : Reference.LacksSource ":a\\:b" := ⟨"a\\:b", by decide, by decide, by decide⟩

end Spec

end WorkflowPod.Workflow
