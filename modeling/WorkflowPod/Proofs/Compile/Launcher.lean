import WorkflowPod.Proofs.Compile.Delivery
import WorkflowPod.Proofs.Path.Join

/-!
The command line of the launcher. Main statements: where the package and its manifest are is decided
by the source, and all that the workflow says for the launcher reaches it, in order and unchanged.
-/
namespace WorkflowPod.Compile

open Manifest Workflow Package

/-- Where the launcher finds its package: `base` is what the source provides, `last` the path of the
package and `words` those for the manifest. -/
structure Resolved (package : Workflow.Package) (source : Source) (base last : String)
    (words : List String) : Prop where
  repository : ∀ url, source.url? = some url →
    base = Path.join [packageMount package, Path.baseName url]
  definition : ∀ name, source = .configMap name →
    base = Path.join [packageMount package, "lambda.package"]
  earlierRun : ∀ name, source = .earlierRun name → base = Path.join ["/tmp/workdir", name]
  volumePath : base = "" ↔ source = .volumePath
  whole : given package.fromPath = none → last = base
  verbatim : ∀ path, given package.fromPath = some path →
    Path.isAbsolute path ∨ source = .volumePath → last = path
  /-- Only a repository is narrowed to a path in it, at once and not from the whole. -/
  narrowed : ∀ path, given package.fromPath = some path → ¬Path.isAbsolute path →
    source ≠ .volumePath → ∃ url, source.url? = some url ∧
      last = Path.join [packageMount package, Path.baseName url, path]
  undivided : ∀ name, source = .configMap name ∨ source = .earlierRun name →
    given package.fromPath = none
  noManifest : given package.withManifest = none → words = []
  /-- A manifest is relative to what the source provides, however the package is narrowed. -/
  manifest : ∀ path, given package.withManifest = some path →
    words = ["--manifest",
      if Path.isAbsolute path ∨ base = "" then path else Path.join [base, path]]

section Package

variable {spec : Spec} {source : Source} (package : Workflow.Package)

theorem packageMount_ne_empty : packageMount package ≠ "" := by
  unfold packageMount
  cases h : given package.mount with
  | none => decide
  | some mount => exact ne_of_given h

theorem packageBase_eq_empty_iff (source : Source) :
    packageBase source package = "" ↔ source = .volumePath := by
  have hmount := packageMount_ne_empty package
  have hworking : workingRoot ≠ "" := by decide
  cases source with
  | https | ssh | configMap => simp [packageBase, Path.join_ne_empty hmount]
  | earlierRun => simp [packageBase, Path.join_ne_empty hworking]
  | volumePath => simp [packageBase]

theorem packagePath_eq (source : Source) :
    packagePath source package =
      (given package.fromPath).elim (packageBase source package)
        (Path.resolve (packageBase source package)) := by
  unfold packagePath
  cases given package.fromPath <;> rfl

variable {package} in

theorem packageBase_of_url? {url : String} (h : source.url? = some url) :
    packageBase source package = Path.join [packageMount package, Path.baseName url] := by
  cases source with
  | https | ssh =>
    cases h
    rfl
  | configMap | volumePath | earlierRun => cases h

theorem resolved_of_classify (h : Source.classify spec = .ok source) :
    let package := spec.package.getD {}
    Resolved package source (packageBase source package) (packagePath source package)
      (manifestWords source package) := by
  intro package
  have hempty := packageBase_eq_empty_iff package source
  have hpath := packagePath_eq package source
  constructor
  case repository => exact fun url hurl => packageBase_of_url? hurl
  case definition =>
    intro name hsource
    rw [hsource]
    rfl
  case earlierRun =>
    intro name hsource
    rw [hsource]
    rfl
  case volumePath => exact hempty
  case whole =>
    intro hwhole
    rw [hpath, hwhole, Option.elim_none]
  case verbatim =>
    intro path hgiven hverbatim
    rw [← hempty] at hverbatim
    rw [hpath, hgiven, Option.elim_some, Path.resolve_eq, if_pos hverbatim]
  case narrowed =>
    intro path hgiven hrelative hsource
    obtain hvolume | ⟨url, hurl⟩ := Source.exists_url?_of_fromPath h hgiven
    · exact absurd hvolume hsource
    · have hbase : packageBase source package ≠ "" := mt hempty.1 hsource
      refine ⟨url, hurl, ?_⟩
      rw [hpath, hgiven, Option.elim_some, Path.resolve_eq, if_neg (not_or.2 ⟨hrelative, hbase⟩),
        packageBase_of_url? hurl, Path.join_join_cons]
      rfl
  case undivided =>
    rintro name (rfl | rfl)
    · cases Source.provides_of_classify h with
      | configMap _ noPath => exact noPath
    · cases Source.provides_of_classify h with
      | earlierRun _ _ noPath => exact noPath
  case noManifest =>
    intro hnone
    rw [manifestWords, hnone]
  case manifest =>
    intro path hgiven
    rw [manifestWords, hgiven, ← Path.resolve_eq]

end Package

/-- The words of the command line before those for the package. -/
def userWords (spec : Spec) : List String :=
  (if spec.debug then ["echo"] else []) ++ [(given spec.command).getD "elaunch.py"] ++
    spec.inputs.flatMap (["-i", ·]) ++ spec.variableFiles.flatMap (["-a", ·]) ++
    spec.data.flatMap (["-d", ·]) ++ spec.additionalOptions

section Normalized

variable (spec : Spec) (defaults : Operator.Defaults) (kind : SourceKind)

/-- The package of a plan differs from the workflow's in nothing but the secret. -/
theorem exists_package_normalized :
    ∃ secret, (normalized spec defaults kind).package.getD {} =
      { spec.package.getD {} with gitSecret := secret } := by
  rw [package_normalized]
  cases spec.package with
  | none => exact ⟨none, rfl⟩
  | some package =>
    rw [Option.map_some, Option.getD_some, Package.withSecret]
    split
    · exact ⟨_, rfl⟩
    · exact ⟨package.gitSecret, rfl⟩

theorem packageMount_normalized :
    packageMount ((normalized spec defaults kind).package.getD {}) =
      packageMount (spec.package.getD {}) := by
  obtain ⟨secret, hpackage⟩ := exists_package_normalized spec defaults kind
  rw [hpackage]
  rfl

theorem launcherWords_normalized (source : Source) :
    launcherWords (normalized spec defaults kind) source
        ((normalized spec defaults kind).package.getD {}) =
      userWords spec.withAbsolutePaths ++ manifestWords source (spec.package.getD {}) ++
        [packagePath source (spec.package.getD {})] := by
  obtain ⟨secret, hpackage⟩ := exists_package_normalized spec defaults kind
  rw [hpackage, normalized_eq]
  rfl

end Normalized

section Plan

variable {workflow : Workflow} {defaults : Operator.Defaults}
  {environment : Operator.Environment}

theorem command_planWith (source : Source) (fetches : List Container) :
    let package := workflow.spec.package.getD {}
    (planWith workflow defaults environment source fetches).primary.command =
      some (userWords workflow.spec.withAbsolutePaths ++ manifestWords source package ++
        [packagePath source package]) :=
  congrArg some (launcherWords_normalized workflow.spec defaults source.kind source)

/-- The last word is what the source provides, narrowed if there is a path to narrow it to. The
words for a manifest stand before it, and there are no others for the package. -/
theorem exists_resolved {plan : Plan} (h : compile workflow defaults environment = .ok plan) :
    ∃ source base last manifest, Source.classify workflow.spec = .ok source ∧
      source.Provides workflow.spec ∧
      plan.primary.command =
        some (userWords workflow.spec.withAbsolutePaths ++ manifest ++ [last]) ∧
      Resolved (workflow.spec.package.getD {}) source base last manifest := by
  obtain ⟨source, fetches, hsource, -, rfl⟩ := exists_planWith h
  exact ⟨source, _, _, _, hsource, Source.provides_of_classify hsource,
    command_planWith source fetches, resolved_of_classify hsource⟩

end Plan

/-- A workflow with a path in its package and a manifest, neither of them tidy. -/
def narrowedWorkflow : Workflow where
  metadata := { name := some "w" }
  spec :=
    { package := some
        { url := some "git@host:org/repo.git", mount := some "/mnt//data/"
          fromPath := some "a/../b", withManifest := some "./m.json" } }

theorem exists_resolved_narrowedWorkflow :
    ∃ plan, compile narrowedWorkflow {} {} = .ok plan ∧
      plan.primary.command = some ["elaunch.py", "--manifest", "/mnt/data/repo.git/m.json",
        "/mnt/data/repo.git/b"] := by
  obtain ⟨plan, hplan⟩ : ∃ plan, compile narrowedWorkflow {} {} = .ok plan := ⟨_, rfl⟩
  obtain ⟨source, base, last, manifest, hsource, -, hcommand, hresolved⟩ := exists_resolved hplan
  obtain rfl : Source.ssh "git@host:org/repo.git" = source := by
    have hssh : Source.classify narrowedWorkflow.spec = .ok (.ssh "git@host:org/repo.git") := by
      decide
    exact Except.ok.inj (hssh.symm.trans hsource)
  have hbase := hresolved.repository _ rfl
  have hmanifest := hresolved.manifest "./m.json" rfl
  obtain ⟨url, hurl, hlast⟩ := hresolved.narrowed "a/../b" rfl (by decide) (by decide)
  cases hurl
  rw [hbase] at hmanifest
  rw [hmanifest, hlast] at hcommand
  exact ⟨plan, hplan, hcommand.trans (by decide)⟩

/-- The variable with the directory of an earlier run. -/
def runVariable (name : String) : Variable := { name := "INSTANCE_DIR_NAME", value := some name }

/-- The secrets images are pulled with: the workflow's, or else the default ones. -/
def pullSecrets (spec : Spec) (defaults : Operator.Defaults) : List String :=
  if spec.imagePullSecrets = [] then defaults.pullSecrets else spec.imagePullSecrets

/-- All that a workflow says for its launcher is in the plan, in order and with nothing changed but
what files are relative to. -/
structure Conveyed (workflow : Workflow) (defaults : Operator.Defaults) (source : Source)
    (plan : Plan) : Prop where
  command : ∃ inputs variableFiles data base path manifest,
    plan.primary.command = some
      ((if workflow.spec.debug then ["echo"] else []) ++
        [(given workflow.spec.command).getD "elaunch.py"] ++ inputs.flatMap (["-i", ·]) ++
        variableFiles.flatMap (["-a", ·]) ++ data.flatMap (["-d", ·]) ++
        workflow.spec.additionalOptions ++ manifest ++ [path]) ∧
    List.Forall₂
      (Delivered
        (if workflow.spec.bucketInput.isSome then "/tmp/s3-root-dir/input" else "/tmp/inputdir"))
      workflow.spec.inputs inputs ∧
    List.Forall₂ (Delivered "/tmp/inputdir") workflow.spec.variableFiles variableFiles ∧
    List.Forall₂
      (Delivered
        (if workflow.spec.bucketInput.isSome then "/tmp/s3-root-dir/data" else "/tmp/inputdir"))
      workflow.spec.data data ∧
    (∀ entry ∈ inputs ++ variableFiles ++ data, Path.isAbsolute entry) ∧
    Resolved (workflow.spec.package.getD {}) source base path manifest
  volumeMounts : ∃ added, plan.primary.volumeMounts = some (workflow.spec.volumeMounts ++ added)
  /-- The launcher of an earlier run has one variable more. -/
  env : plan.primary.env =
      some (workflow.spec.env ++ (source.runName?.map runVariable).toList) ∧
    source.runName? = given workflow.spec.instanceName
  /-- It counts, as it is the last of its name. -/
  shadowing : ∀ name, source = .earlierRun name →
    (plan.primary.env.getD []).reverse.find? (·.name == "INSTANCE_DIR_NAME") =
      some (runVariable name)
  monitor : plan.monitor.env = some workflow.spec.env
  containers : plan.pod.spec.map (·.containers) = some [plan.primary, plan.monitor] ∧
    plan.primary.name = "elaunch-primary" ∧ plan.monitor.name = "monitor-elaunch-container"
  pullSecrets : plan.pod.spec.bind (·.imagePullSecrets) =
    if pullSecrets workflow.spec defaults = [] then none
    else some ((pullSecrets workflow.spec defaults).map LocalReference.mk)

end WorkflowPod.Compile

namespace WorkflowPod

open Manifest

def Workflow.withDebug (workflow : Workflow) (debug : Bool) : Workflow :=
  { workflow with spec := { workflow.spec with debug } }

/-- A pod with the words `words` for the command of the container called `name`. -/
def Manifest.Pod.withCommand (name : String) (words : List String) (pod : Pod) : Pod :=
  { pod with
    spec := pod.spec.map fun spec =>
      { spec with
        containers := spec.containers.map fun c =>
          if c.name = name then { c with command := some words } else c } }

namespace Compile

open Workflow Package

section Plan

variable {workflow : Workflow} {defaults : Operator.Defaults}
  {environment : Operator.Environment} {source : Source}

theorem conveyed_planWith (h : Source.classify workflow.spec = .ok source)
    (fetches : List Container) :
    Conveyed workflow defaults source
      (planWith workflow defaults environment source fetches) := by
  have henv : (planWith workflow defaults environment source fetches).primary.env =
      some (workflow.spec.env ++ (source.runName?.map runVariable).toList) := by
    have hrun : runVariables source = (source.runName?.map runVariable).toList := by
      cases source <;> rfl
    rw [planWith, normalized_eq, ← hrun]
    rfl
  constructor
  case command =>
    exact ⟨_, _, _, _, _, _, command_planWith source fetches,
      workflow.spec.forall₂_delivered_inputs, workflow.spec.forall₂_delivered_variableFiles,
      workflow.spec.forall₂_delivered_data,
      fun entry => workflow.spec.isAbsolute_of_mem_withAbsolutePaths, resolved_of_classify h⟩
  case volumeMounts =>
    exact ⟨_, primary_volumeMounts_planWith workflow defaults environment source fetches⟩
  case env => exact ⟨henv, (Source.given_instanceName_of_classify h).symm⟩
  case shadowing =>
    rintro name rfl
    rw [henv]
    simp [Source.runName?, runVariable]
  case monitor =>
    rw [planWith, normalized_eq]
    rfl
  case containers => exact ⟨rfl, rfl, rfl⟩
  case pullSecrets =>
    have hsecrets : (normalized workflow.spec defaults source.kind).imagePullSecrets =
        pullSecrets workflow.spec defaults := by
      rw [normalized_eq]
      simp [Spec.withAbsolutePaths, Spec.withDefaults, pullSecrets]
    rw [← hsecrets]
    simp [Plan.pod, planWith]

end Plan

section Debug

variable (workflow : Workflow) (defaults : Operator.Defaults)
  (environment : Operator.Environment) (source : Source) (debug : Bool)

theorem normalized_withDebug (kind : SourceKind) :
    normalized (workflow.withDebug debug).spec defaults kind =
      { normalized workflow.spec defaults kind with debug } := by
  rw [normalized_eq, normalized_eq]
  rfl

theorem fetchContainers_withDebug :
    fetchContainers (workflow.withDebug debug) defaults environment source =
      fetchContainers workflow defaults environment source := by
  unfold fetchContainers
  rw [normalized_withDebug]
  rfl

/-- Debugging is a word before all others. -/
theorem launcherWords_eq_append (spec : Spec) (package : Workflow.Package) :
    launcherWords spec source package =
      (if spec.debug then ["echo"] else []) ++
        launcherWords { spec with debug := false } source package := by
  simp only [launcherWords, List.append_assoc, Bool.false_eq_true, if_false, List.nil_append]

/-- The words of the launcher's command line without those for debugging. -/
def quietWords : List String :=
  let spec := normalized workflow.spec defaults source.kind
  launcherWords { spec with debug := false } source (spec.package.getD {})

theorem command_planWith_eq_append (fetches : List Container) :
    (planWith workflow defaults environment source fetches).primary.command =
      some ((if workflow.spec.debug then ["echo"] else []) ++
        quietWords workflow defaults source) := by
  have hdebug : (normalized workflow.spec defaults source.kind).debug = workflow.spec.debug := by
    rw [normalized_eq]
    rfl
  rw [← hdebug]
  exact congrArg some (launcherWords_eq_append source _ _)

theorem pod_planWith_withDebug (fetches : List Container) :
    (planWith (workflow.withDebug debug) defaults environment source fetches).pod =
      (planWith workflow defaults environment source fetches).pod.withCommand "elaunch-primary"
        ((if debug then ["echo"] else []) ++ quietWords workflow defaults source) := by
  have hwords := launcherWords_eq_append source
    { normalized workflow.spec defaults source.kind with debug }
    ((normalized workflow.spec defaults source.kind).package.getD {})
  unfold planWith quietWords
  rw [normalized_withDebug, ← hwords]
  rfl

end Debug

/-- What a workflow says for its launcher is neither lost nor changed on the way, and debugging
makes no difference but for one word. -/
theorem exists_conveyed {workflow : Workflow} {defaults : Operator.Defaults}
    {environment : Operator.Environment} {plan : Plan}
    (h : compile workflow defaults environment = .ok plan) :
    ∃ source, Source.classify workflow.spec = .ok source ∧
      Conveyed workflow defaults source plan ∧
      ∃ words, plan.primary.command =
          some ((if workflow.spec.debug then ["echo"] else []) ++ words) ∧
        ∀ debug, ∃ plan', compile (workflow.withDebug debug) defaults environment = .ok plan' ∧
          plan'.pod = plan.pod.withCommand "elaunch-primary"
            ((if debug then ["echo"] else []) ++ words) := by
  obtain ⟨source, fetches, hsource, hfetches, rfl⟩ := exists_planWith h
  refine ⟨source, hsource, conveyed_planWith hsource fetches, quietWords workflow defaults source,
    command_planWith_eq_append workflow defaults environment source fetches, fun debug => ?_⟩
  have hsource' : Source.classify (workflow.withDebug debug).spec = .ok source := hsource
  have hplan' := compile_eq_map defaults environment hsource'
  rw [fetchContainers_withDebug, hfetches] at hplan'
  exact ⟨_, hplan', pod_planWith_withDebug workflow defaults environment source debug fetches⟩

/-- A workflow with something to say everywhere. -/
def talkativeWorkflow : Workflow where
  metadata := { name := some "w" }
  spec :=
    { instanceName := some "run", debug := true, command := some ""
      inputs := ["a", "/b"], variableFiles := ["c"], data := ["d:e"]
      additionalOptions := ["--fast"], env := [{ name := "INSTANCE_DIR_NAME" }] }

theorem exists_conveyed_talkativeWorkflow :
    let words := ["elaunch.py", "-i", "/tmp/inputdir/a", "-i", "/b", "-a", "/tmp/inputdir/c", "-d",
      "/tmp/inputdir/d:e", "--fast", "/tmp/workdir/run"]
    ∃ plan plan', compile talkativeWorkflow { pullSecrets := ["key"] } {} = .ok plan ∧
      compile (talkativeWorkflow.withDebug false) { pullSecrets := ["key"] } {} = .ok plan' ∧
      plan.primary.command = some ("echo" :: words) ∧
      plan'.pod = plan.pod.withCommand "elaunch-primary" words ∧
      plan.primary.env = some [{ name := "INSTANCE_DIR_NAME" }, runVariable "run"] ∧
      plan.pod.spec.bind (·.imagePullSecrets) = some [⟨"key"⟩] := by
  intro words
  obtain ⟨plan, hplan⟩ :
      ∃ plan, compile talkativeWorkflow { pullSecrets := ["key"] } {} = .ok plan := ⟨_, rfl⟩
  obtain ⟨source, hsource, hconveyed, others, hcommand, hdebug⟩ := exists_conveyed hplan
  obtain ⟨plan', hplan', hpod⟩ := hdebug false
  have hwords : plan.primary.command = some ("echo" :: words) := by
    obtain rfl := Except.ok.inj hplan
    decide
  obtain rfl : others = words := by
    have hboth := hcommand.symm.trans hwords
    exact (List.cons.inj (Option.some.inj hboth)).2
  obtain ⟨henv, hrun⟩ := hconveyed.env
  rw [hrun] at henv
  exact ⟨plan, plan', hplan, hplan', hwords, hpod, henv, hconveyed.pullSecrets⟩

end Compile

end WorkflowPod
