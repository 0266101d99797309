import WorkflowPod.Proofs.Compile.Launcher

/-!
Where packages are. Main statements: a repository is fetched to where the launcher looks for it, and
the package a launcher is given is in its volume exactly if what it is called by does not lead out.
-/
namespace WorkflowPod.Compile

open Manifest Workflow Package WorkflowPod.Path Shell

section Plan

variable {workflow : Workflow} {defaults : Operator.Defaults}
  {environment : Operator.Environment} {source : Source}

/-- By name the container for the package is the only one of those that fetch. -/
theorem filter_packageFetch {fetches : List Container}
    (h : fetchContainers workflow defaults environment source = .ok fetches)
    (hneeds : source.needsFetch) :
    fetches.filter (·.name == "git-sync-package") =
      [packageFetch workflow defaults environment source] := by
  obtain ⟨forBucket, rfl, -, hbucket⟩ := exists_eq_of_fetchContainers h
  have hpackage : packageFetch? workflow defaults environment source =
      some (packageFetch workflow defaults environment source) := if_pos hneeds
  have hother : forBucket.toList.filter (·.name == "git-sync-package") = [] := by
    refine List.filter_eq_nil_iff.2 fun c hc => ?_
    obtain ⟨b, -, hmade⟩ := hbucket c (Option.mem_toList.1 hc)
    rw [(name_and_volumeMounts_bucketFetch hmade).1]
    decide
  rw [List.filter_append, hother, List.append_nil, hpackage]
  rfl

theorem filter_name_packageFetch {url host path : String} :
    ((packageFetch workflow defaults environment (.https url host path)).volumeMounts.getD
      []).filter (·.name == "git-sync-package") =
        [.ofVolume "git-sync-package" "/tmp/git"] := by
  rw [volumeMounts_packageFetch]
  split <;> rfl

theorem mem_volumes_planWith (fetches : List Container) :
    .ofEmptyDir "git-sync-package" ∈
      (planWith workflow defaults environment source fetches).volumes := by
  rw [volumes_planWith, volumesFor]
  simp

theorem mem_volumeMounts_planWith (fetches : List Container) :
    .ofVolume "git-sync-package" (packageMount (workflow.spec.package.getD {})) ∈
      (planWith workflow defaults environment source fetches).primary.volumeMounts.getD [] := by
  rw [primary_volumeMounts_planWith, addedMounts, packageMount_normalized, Option.getD_some]
  simp [packageVolume]

/-- The directory a repository is fetched into is an entry of the volume. -/
theorem isEntry_destination {name : String} (hname : IsName name.toList) :
    IsEntry "/tmp/git" name ("/tmp/git/" ++ name) := by
  have hroot : "/tmp/git" ≠ "" := by decide
  have hstem : stem (isAbsolute "/tmp/git") (elements "/tmp/git") = "/tmp/git/".toList := by decide
  have hjoin : join ["/tmp/git", name] = "/tmp/git/" ++ name := by
    rw [← String.toList_inj, toList_join_name hroot hname, hstem, String.toList_append]
  exact hjoin ▸ isEntry_join hroot hname

end Plan

/-- The container that fetches a repository and the launcher mount the same volume, each at a place
of its own. The directory the one makes and the one the other looks for are the same entry of the
volume, whatever the address and the mount are, but for addresses that end in dots. -/
theorem exists_same_entry {workflow : Workflow} {defaults : Operator.Defaults}
    {environment : Operator.Environment} {plan : Plan} {url host path : String}
    (hsource : Source.classify workflow.spec = .ok (.https url host path))
    (h : compile workflow defaults environment = .ok plan) :
    let package := workflow.spec.package.getD {}
    let mount := (given package.mount).getD "/mnt/package"
    let name := baseName url
    let destination := "/tmp/git/" ++ name
    name ≠ "" ∧ '/' ∉ name.toList ∧ .ofEmptyDir "git-sync-package" ∈ plan.volumes ∧
      (∃ fetch script credential revision,
        plan.pod.initContainers.filter (·.name == "git-sync-package") = [fetch] ∧
        fetch.command = some ["/bin/sh", "-c"] ∧ fetch.args = some [script] ∧
        Shell.read? script = some
          (checkoutCommands (literal destination)
              (remoteWord url (host ++ "/" ++ path) credential) revision ++
            cleanupCommands (literal destination)) ∧
        (fetch.volumeMounts.getD []).filter (·.name == "git-sync-package") =
          [.ofVolume "git-sync-package" "/tmp/git"]) ∧
      .ofVolume "git-sync-package" mount ∈ plan.primary.volumeMounts.getD [] ∧
      ∃ front base,
        plan.primary.command =
          some (front ++ [(given package.fromPath).elim base (resolve base)]) ∧
        (name ≠ "." → name ≠ ".." →
          IsEntry "/tmp/git" name destination ∧ IsEntry mount name base) := by
  intro package mount name destination
  obtain ⟨source, fetches, hsource', hfetches, rfl⟩ := exists_planWith h
  obtain rfl := Except.ok.inj (hsource.symm.trans hsource')
  have hletter := Source.exists_mem_of_url? hsource rfl
  have hname : name ≠ "" := baseName_ne_empty hletter
  have hslash : '/' ∉ name.toList := slash_not_mem_baseName hletter
  refine ⟨hname, hslash, mem_volumes_planWith fetches, ?_, mem_volumeMounts_planWith fetches,
    userWords workflow.spec.withAbsolutePaths ++ manifestWords (.https url host path) package,
    join [mount, name], ?_, ?_⟩
  · obtain ⟨script, revision, hcommand, hargs, hread⟩ :=
      script_packageFetch workflow defaults environment url host path
    refine ⟨_, script, _, revision, ?_, hcommand, hargs, hread, filter_name_packageFetch⟩
    rw [Plan.initContainers_pod]
    exact filter_packageFetch hfetches rfl
  · have hpath := packagePath_eq package (.https url host path)
    rw [command_planWith, hpath]
    rfl
  · intro hhere hup
    have hentry := isName_toList hname hslash hhere hup
    exact ⟨isEntry_destination hentry, isEntry_join (packageMount_ne_empty package) hentry⟩

/-- A workflow with an address and a mount that are not tidy. -/
def untidyMountWorkflow : Workflow where
  metadata := { name := some "w" }
  spec :=
    { package := some { url := some "https://[::1]/org/repo.git//", mount := some "a/./b/..//" } }

theorem exists_same_entry_untidyMountWorkflow :
    ∃ plan, compile untidyMountWorkflow {} {} = .ok plan ∧
      plan.primary.command = some ["elaunch.py", "a/repo.git"] ∧
      IsEntry "/tmp/git" "repo.git" "/tmp/git/repo.git" ∧
      IsEntry "a/./b/..//" "repo.git" "a/repo.git" := by
  have hsource : Source.classify untidyMountWorkflow.spec =
      .ok (.https "https://[::1]/org/repo.git//" "[::1]" "org/repo.git//") := by decide
  obtain ⟨plan, hplan⟩ : ∃ plan, compile untidyMountWorkflow {} {} = .ok plan := ⟨_, rfl⟩
  have hcommand : plan.primary.command = some ["elaunch.py", "a/repo.git"] := by
    obtain rfl := Except.ok.inj hplan
    decide
  have hname : baseName "https://[::1]/org/repo.git//" = "repo.git" := by decide
  obtain ⟨-, -, -, -, -, front, base, hwords, hentries⟩ := exists_same_entry hsource hplan
  rw [hname] at hentries
  obtain rfl : base = "a/repo.git" := by
    have hlast := congrArg (·.bind List.getLast?) (hwords.symm.trans hcommand)
    have hblank : given (untidyMountWorkflow.spec.package.getD {}).fromPath = none := rfl
    simpa [hblank] using hlast
  obtain ⟨hdestination, hbase⟩ := hentries (by decide) (by decide)
  exact ⟨plan, hplan, hcommand, hdestination, hbase⟩

/-- What is launched whole is strictly below the working directory exactly if the name of the
earlier run leads there, and below the mount of the package unless the address ends in dots. -/
theorem below_iff {workflow : Workflow} {defaults : Operator.Defaults}
    {environment : Operator.Environment} {plan : Plan}
    (hwhole : given (workflow.spec.package.getD {}).fromPath = none)
    (h : compile workflow defaults environment = .ok plan) :
    let mount := (given (workflow.spec.package.getD {}).mount).getD "/mnt/package"
    ∃ source front last, Source.classify workflow.spec = .ok source ∧
      plan.primary.command = some (front ++ [last]) ∧
      (∀ name, source = .earlierRun name →
        (Below "/tmp/workdir" last ↔ LeadsBelow "/tmp/workdir" name)) ∧
      (∀ url, source.url? = some url → isAbsolute mount →
        (Below mount last ↔ baseName url ≠ "." ∧ baseName url ≠ "..")) ∧
      ∀ name, source = .configMap name → isAbsolute mount → Below mount last := by
  intro mount
  obtain ⟨source, fetches, hsource, -, rfl⟩ := exists_planWith h
  have hresolved := resolved_of_classify hsource
  have hlast := hresolved.whole hwhole
  refine ⟨source, _, _, hsource, command_planWith source fetches, ?_, ?_, ?_⟩
  · intro name hrun
    have hgiven : given workflow.spec.instanceName = some name := by
      rw [Source.given_instanceName_of_classify hsource, hrun, Source.runName?]
    rw [hlast, hresolved.earlierRun name hrun]
    exact below_join_iff (by decide) (ne_of_given hgiven)
  · intro url hurl hmount
    have hletter := Source.exists_mem_of_url? hsource hurl
    have hname := baseName_ne_empty hletter
    rw [hlast, hresolved.repository url hurl]
    exact (below_join_iff hmount hname).trans
      (leadsBelow_iff_of_not_mem hname (slash_not_mem_baseName hletter))
  · intro name hdefinition hmount
    have hleads : LeadsBelow mount "lambda.package" :=
      (leadsBelow_iff_of_not_mem (by decide) (by decide)).2 (by decide)
    rw [hlast, hresolved.definition name hdefinition]
    exact (below_join_iff hmount (by decide)).2 hleads

/-- A workflow with an earlier run under the working directory, said in a roundabout way. -/
def roundaboutWorkflow : Workflow where
  metadata := { name := some "w" }
  spec := { instanceName := some "../workdir/./a/../run" }

/-- A workflow with an address that ends in dots. -/
def dottedWorkflow : Workflow where
  metadata := { name := some "w" }
  spec := { package := some { url := some "https://[::1]/org/..", mount := some "/data/package" } }

theorem below_iff_roundaboutWorkflow :
    (∃ plan front last, compile roundaboutWorkflow {} {} = .ok plan ∧
      plan.primary.command = some (front ++ [last]) ∧ Below "/tmp/workdir" last) ∧
    ∃ plan front last, compile dottedWorkflow {} {} = .ok plan ∧
      plan.primary.command = some (front ++ [last]) ∧ ¬Below "/data/package" last := by
  constructor
  · obtain ⟨plan, hplan⟩ : ∃ plan, compile roundaboutWorkflow {} {} = .ok plan := ⟨_, rfl⟩
    obtain ⟨source, front, last, hsource, hcommand, hrun, -⟩ := below_iff rfl hplan
    have hearlier : Source.classify roundaboutWorkflow.spec =
        .ok (.earlierRun "../workdir/./a/../run") := by decide
    have hname : IsName "run".toList :=
      isName_toList (by decide) (by decide) (by decide) (by decide)
    have hleads : LeadsBelow "/tmp/workdir" "../workdir/./a/../run" :=
      ⟨1, ["run".toList], by decide, List.forall_mem_singleton.2 hname, by decide⟩
    obtain rfl := Except.ok.inj (hearlier.symm.trans hsource)
    exact ⟨plan, front, last, hplan, hcommand, (hrun _ rfl).2 hleads⟩
  · obtain ⟨plan, hplan⟩ : ∃ plan, compile dottedWorkflow {} {} = .ok plan := ⟨_, rfl⟩
    obtain ⟨source, front, last, hsource, hcommand, -, hrepository, -⟩ := below_iff rfl hplan
    have hhttps : Source.classify dottedWorkflow.spec =
        .ok (.https "https://[::1]/org/.." "[::1]" "") := by decide
    obtain rfl := Except.ok.inj (hhttps.symm.trans hsource)
    have hup : baseName "https://[::1]/org/.." = ".." := by decide
    refine ⟨plan, front, last, hplan, hcommand, fun hbelow => ?_⟩
    exact ((hrepository _ rfl rfl).1 hbelow).2 hup

/-- A workflow with an earlier run that is not under the working directory. -/
def outsideWorkflow : Workflow where
  metadata := { name := some "w" }
  spec := { instanceName := some "../other" }

/-- A name may lead out of the working directory: `../other` is launched from beside it. -/
theorem not_forall_below :
    ¬ ∀ (workflow : Workflow) (defaults : Operator.Defaults) (environment : Operator.Environment)
      (plan : Plan), given (workflow.spec.package.getD {}).fromPath = none →
      compile workflow defaults environment = .ok plan →
      let mount := (given (workflow.spec.package.getD {}).mount).getD "/mnt/package"
      ∃ source front last, Source.classify workflow.spec = .ok source ∧
        plan.primary.command = some (front ++ [last]) ∧
        (∀ name, source = .earlierRun name → Below "/tmp/workdir" last) ∧
        (∀ url, source.url? = some url → isAbsolute mount → Below mount last) ∧
        ∀ name, source = .configMap name → isAbsolute mount → Below mount last := by
  intro h
  obtain ⟨plan, hplan⟩ : ∃ plan, compile outsideWorkflow {} {} = .ok plan := ⟨_, rfl⟩
  obtain ⟨source, front, last, hsource, hcommand, hrun, -⟩ := h outsideWorkflow {} {} plan rfl hplan
  have hearlier : Source.classify outsideWorkflow.spec = .ok (.earlierRun "../other") := by decide
  have hwords : plan.primary.command = some ["elaunch.py", "/tmp/other"] := by
    obtain rfl := Except.ok.inj hplan
    decide
  obtain rfl : last = "/tmp/other" := by
    have hlast := congrArg (·.bind List.getLast?) (hcommand.symm.trans hwords)
    simpa using hlast
  obtain ⟨-, names, -, -, helements⟩ := hrun _ (Except.ok.inj (hsource.symm.trans hearlier))
  have hplace : elements "/tmp/other" = ["tmp".toList, "other".toList] := by decide
  have hworking : elements "/tmp/workdir" = ["tmp".toList, "workdir".toList] := by decide
  rw [hplace, hworking] at helements
  obtain ⟨-, hsecond⟩ := List.cons.inj helements
  exact absurd (List.cons.inj hsecond).1 (by decide)

end WorkflowPod.Compile
