import Mathlib.Data.List.Nodup
import WorkflowPod.Proofs.Compile.Fault

/-!
The volumes of a plan and what its containers mount. Main statement: all that is mounted is there,
the config volume is the config map of the plan, and names the workflow keeps apart stay apart.
-/
namespace WorkflowPod.Compile

open Manifest Workflow Package

/-- The volumes of a plan in their order. -/
def volumesFor (workflow : Workflow) (defaults : Operator.Defaults) (source : Source) :
    List Volume :=
  workflow.spec.volumes ++ (named workflow.spec.inputDataVolume).toList ++
    [.ofConfigMap "config-volume" (workflow.name ++ "-config"),
      workingVolume workflow.spec defaults] ++
    ((effectiveSecret workflow.spec defaults source.kind).map
      (.ofSecret "git-secrets-package" · 0o440)).toList ++
    [.ofConfigMap "git-sync-config" "git-sync-config"] ++
    (source.configMapName?.map fun name => .ofConfigMap name name).toList ++
    [.ofEmptyDir "git-sync-package", .ofEmptyDir "tmp-volume-name"] ++
    (if workflow.spec.bucketInput.isSome then [.ofEmptyDir "s3-fetch"] else [])

section Plan

variable (workflow : Workflow) (defaults : Operator.Defaults)
  (environment : Operator.Environment) (source : Source) (fetches : List Container)

theorem volumes_planWith :
    (planWith workflow defaults environment source fetches).volumes =
      volumesFor workflow defaults source := by
  have hdefinition : definitionVolumes source =
      (source.configMapName?.map fun name => Volume.ofConfigMap name name).toList := by
    cases source <;> rfl
  unfold planWith volumes volumesFor
  dsimp only
  rw [volumes_normalized, bucketInput_normalized, hdefinition]
  rfl

/-- The mounts of the launcher besides those of the workflow. -/
def addedMounts : List VolumeMount :=
  inputMounts workflow.spec ++
    [configMount, workingMount (workingVolume workflow.spec defaults),
      .ofVolume packageVolume (packageMount
        ((normalized workflow.spec defaults source.kind).package.getD {})),
      temporaryMount, passwdMount] ++
    if workflow.spec.bucketInput.isSome then [.ofVolume bucketVolume bucketRoot] else []

theorem primary_volumeMounts_planWith :
    (planWith workflow defaults environment source fetches).primary.volumeMounts =
      some (workflow.spec.volumeMounts ++ addedMounts workflow defaults source) := by
  unfold planWith launcherContainer addedMounts
  dsimp only
  rw [volumeMounts_normalized, bucketInput_normalized]
  simp only [List.append_assoc]

variable {source}

theorem volumeMounts_packageFetch :
    (packageFetch workflow defaults environment source).volumeMounts =
      some ([.ofVolume "git-sync-package" "/tmp/git", passwdMount] ++
        (source.configMapName?.map (VolumeMount.ofVolume · "/etc/flowir_package")).toList ++
        if (effectiveSecret workflow.spec defaults source.kind).isSome then
          [.ofVolume "git-secrets-package" "/etc/git-secret"] else []) := by
  have hdefinition : definitionMounts source =
      (source.configMapName?.map (VolumeMount.ofVolume · "/etc/flowir_package")).toList := by
    cases source <;> rfl
  rw [← hdefinition]
  rfl

variable {workflow defaults environment fetches}

theorem name_and_volumeMounts_bucketFetch {b : Bucket} {c : Container}
    (h : bucketFetch workflow defaults environment source b = .ok c) :
    c.name = "s3-fetch" ∧
      c.volumeMounts = some [.ofVolume "s3-fetch" "/tmp/s3-root-dir", passwdMount] := by
  unfold bucketFetch bucketFetchContainer at h
  obtain ⟨credentials, -, ⟨⟩⟩ := exists_of_bind h
  exact ⟨rfl, rfl⟩

variable (workflow defaults)

end Plan

end WorkflowPod.Compile
