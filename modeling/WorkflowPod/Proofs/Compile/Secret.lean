import WorkflowPod.Proofs.Compile.Volumes
import WorkflowPod.Proofs.Package.Fetch

/-!
The secret for the repository of a package. Main statement: it goes to the container that fetches
the package and to no other, and a plan depends on no default secret but the one for its source.
-/
namespace WorkflowPod.Compile

open Manifest Workflow Package

section Plan

variable {workflow : Workflow} {defaults : Operator.Defaults}
  {environment : Operator.Environment} {source : Source} {fetches : List Container}

variable (workflow defaults environment) in

/-- The script for an https source makes a directory with the last element of the address. -/
theorem script_packageFetch (url host path : String) :
    ∃ script revision,
      (packageFetch workflow defaults environment (.https url host path)).command =
        some ["/bin/sh", "-c"] ∧
      (packageFetch workflow defaults environment (.https url host path)).args = some [script] ∧
      Shell.read? script = some
        (checkoutCommands (Shell.literal ("/tmp/git/" ++ Path.baseName url))
            (remoteWord url (host ++ "/" ++ path)
              (effectiveSecret workflow.spec defaults .https).isSome) revision ++
          cleanupCommands (Shell.literal ("/tmp/git/" ++ Path.baseName url))) := by
  let package := (normalized workflow.spec defaults .https).package.getD {}
  let fetch := HttpsFetch.of url host path (effectiveSecret workflow.spec defaults .https).isSome
    (.commitFirst (given package.branch) (given package.commitId))
  have hread : Shell.read? fetch.render = _ := fetch.runs_render.read?_eq
  exact ⟨fetch.render, fetch.revision, rfl, rfl, hread⟩

/-- Of the containers that fetch, by name the one for the package is told from the one for the
bucket. -/
theorem eq_of_mem_fetches (h : fetchContainers workflow defaults environment source = .ok fetches)
    {c : Container} (hc : c ∈ fetches) :
    c ∈ packageFetch? workflow defaults environment source ∧ c.name = "git-sync-package" ∨
      c.name = "s3-fetch" ∧
        c.volumeMounts = some [.ofVolume "s3-fetch" "/tmp/s3-root-dir", passwdMount] := by
  obtain ⟨forBucket, rfl, -, hbucket⟩ := exists_eq_of_fetchContainers h
  rcases List.mem_append.1 hc with hc | hc
  · obtain ⟨rfl, -⟩ := eq_of_mem_packageFetch? (Option.mem_toList.1 hc)
    exact .inl ⟨Option.mem_toList.1 hc, rfl⟩
  · obtain ⟨b, -, hmade⟩ := hbucket c (Option.mem_toList.1 hc)
    exact .inr (name_and_volumeMounts_bucketFetch hmade)

end Plan

end WorkflowPod.Compile
