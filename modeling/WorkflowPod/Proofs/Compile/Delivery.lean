import WorkflowPod.Proofs.Compile.Credentials
import WorkflowPod.Proofs.Text.Search
import WorkflowPod.Proofs.Workflow.Delivery

/-!
Files from a bucket. Main statement: what is fetched is, one by one, what the launcher is told to
read from the directories of the bucket, but for references that lack a source.
-/
namespace WorkflowPod.Compile

open Manifest Workflow Package WorkflowPod.Path

/-- Arguments for the entries under the directory `root`, in their order: for each a flag and a name
that fits it, and nothing for entries elsewhere. -/
inductive Requests (fits : String → String → Prop) (flag root : String) :
    List String → List String → Prop where
  | nil : Requests fits flag root [] []
  | fetched {entry name : String} {entries args : List String}
      (under : ∃ reference, entry = root ++ "/" ++ reference) (fit : fits entry name)
      (rest : Requests fits flag root entries args) :
      Requests fits flag root (entry :: entries) (flag :: name :: args)
  | elsewhere {entry : String} {entries args : List String}
      (other : ∀ reference, entry ≠ root ++ "/" ++ reference)
      (rest : Requests fits flag root entries args) :
      Requests fits flag root (entry :: entries) args

/-- The name is that of the file an entry names under the directory `root`. -/
def Named (root entry name : String) : Prop :=
  (Reference.parse entry).source = root ++ "/" ++ name

/-- The name is that of the file a reference names before it is put under the directory `root`. That
is the file it names there, unless it lacks a source: then the colon it starts with is part of the
name, but under the directory it separates the directory from a target. -/
def NamedBefore (root entry name : String) : Prop :=
  ∃ reference, entry = root ++ "/" ++ reference ∧ name = (Reference.parse reference).source ∧
    (Named root entry name ↔ ¬Reference.LacksSource reference) ∧
    ∀ target, target ≠ "" → reference = ":" ++ target → (Reference.parse reference).target = none →
      name = ":" ++ Reference.unescape target ∧
        Reference.parse entry = ⟨root ++ "/", some (Reference.unescape target)⟩

theorem namedBefore {root : String} (hcolon : ':' ∉ root.toList) (hbackslash : '\\' ∉ root.toList)
    (reference : String) :
    NamedBefore root (root ++ "/" ++ reference) (Reference.parse reference).source := by
  refine ⟨reference, rfl, rfl, ⟨?_, fun hkept => ?_⟩, ?_⟩
  · rintro hnamed ⟨name, hname, rfl, htarget⟩
    rw [Named, Reference.parse_under_of_lacksSource hbackslash hname htarget,
      Reference.parse_of_lacksSource htarget, ← String.toList_inj] at hnamed
    simp [String.toList_append] at hnamed
  · rw [Named, Reference.parse_under hcolon hbackslash hkept]
  · rintro target htarget rfl hnone
    rw [Reference.parse_of_lacksSource hnone]
    exact ⟨rfl, Reference.parse_under_of_lacksSource hbackslash htarget hnone⟩

theorem bucketArgs_cons (flag root entry : String) (entries : List String) :
    bucketArgs flag root (entry :: entries) =
      match Text.afterLead? (root ++ "/").toList entry.toList with
      | none => bucketArgs flag root entries
      | some reference =>
        flag :: (Reference.parse (String.ofList reference)).source ::
          bucketArgs flag root entries := by
  unfold bucketArgs
  rw [List.filterMap_cons]
  cases Text.afterLead? (root ++ "/").toList entry.toList <;> rfl

theorem requests_bucketArgs {root : String} (hcolon : ':' ∉ root.toList)
    (hbackslash : '\\' ∉ root.toList) (flag : String) (entries : List String) :
    Requests (NamedBefore root) flag root entries (bucketArgs flag root entries) := by
  have hunder (entry : String) (reference : List Char) :
      Text.afterLead? (root ++ "/").toList entry.toList = some reference ↔
        entry = root ++ "/" ++ String.ofList reference := by
    have htext : (root ++ "/" ++ String.ofList reference).toList =
        (root ++ "/").toList ++ reference := by
      rw [String.toList_append, String.toList_ofList]
    rw [Text.afterLead?_eq_some_iff, ← htext, String.toList_inj]
  induction entries with
  | nil => exact .nil
  | cons entry entries ih =>
    rw [bucketArgs_cons]
    cases hentry : Text.afterLead? (root ++ "/").toList entry.toList with
    | none =>
      refine .elsewhere (fun reference heq => ?_) ih
      have hsome := (hunder entry reference.toList).2 (by rw [heq, String.ofList_toList])
      rw [hentry] at hsome
      cases hsome
    | some reference =>
      rw [(hunder entry reference).1 hentry]
      exact .fetched ⟨_, rfl⟩ (namedBefore hcolon hbackslash _) ih

section Normalized

variable (spec : Spec) (defaults : Operator.Defaults) (kind : SourceKind)

@[simp] theorem inputs_normalized :
    (normalized spec defaults kind).inputs = spec.withAbsolutePaths.inputs := by
  rw [normalized_eq]
  rfl

@[simp] theorem data_normalized :
    (normalized spec defaults kind).data = spec.withAbsolutePaths.data := by
  rw [normalized_eq]
  rfl

end Normalized

theorem args_bucketFetch {workflow : Workflow} {defaults : Operator.Defaults}
    {environment : Operator.Environment} {source : Source} {b : Bucket} {c : Container}
    (h : bucketFetch workflow defaults environment source b = .ok c) :
    c.args = some (bucketArgs "-i" bucketInputRoot workflow.spec.withAbsolutePaths.inputs ++
      bucketArgs "-d" bucketDataRoot workflow.spec.withAbsolutePaths.data) := by
  unfold bucketFetch bucketFetchContainer at h
  rw [inputs_normalized, data_normalized] at h
  obtain ⟨credentials, -, ⟨⟩⟩ := exists_of_bind h
  rfl

theorem infix_fileWords (flag : String) {path : String} {paths : List String} (h : path ∈ paths) :
    [flag, path] <:+: fileWords flag paths := by
  unfold fileWords
  rw [List.flatMap_def]
  exact List.infix_of_mem_flatten (List.mem_map_of_mem h)

/-- Each file is a word of the launcher's command line, as it is written, after its flag. -/
theorem infix_launcherWords (spec : Spec) (source : Source) (package : Workflow.Package) :
    (∀ path ∈ spec.inputs, ["-i", path] <:+: launcherWords spec source package) ∧
      ∀ path ∈ spec.data, ["-d", path] <:+: launcherWords spec source package := by
  set start := (if spec.debug then ["echo"] else []) ++ [(given spec.command).getD "elaunch.py"]
  set rest := spec.additionalOptions ++ (manifestWords source package ++ [packagePath source package])
  have hwords : launcherWords spec source package = start ++ (fileWords "-i" spec.inputs ++
      (fileWords "-a" spec.variableFiles ++ (fileWords "-d" spec.data ++ rest))) := by
    simp only [launcherWords, start, rest, List.append_assoc]
  rw [hwords]
  constructor
  · intro path hpath
    rw [← List.append_assoc]
    exact (infix_fileWords "-i" hpath).trans (List.infix_append _ _ _)
  · intro path hpath
    rw [← List.append_assoc, ← List.append_assoc, ← List.append_assoc]
    exact (infix_fileWords "-d" hpath).trans (List.infix_append _ _ _)

/-- The files of a bucket are fetched one by one for the references that the launcher is given,
inputs before data. Each is the file the launcher is told to read, unless the reference lacks a
source. -/
theorem bucketArgs_delivered {workflow : Workflow} {defaults : Operator.Defaults}
    {environment : Operator.Environment} {plan : Plan}
    (hbucket : workflow.spec.bucketInput.isSome)
    (h : compile workflow defaults environment = .ok plan) :
    let inputRoot := "/tmp/s3-root-dir/input"
    let dataRoot := "/tmp/s3-root-dir/data"
    ∃ fetch inputArgs dataArgs words inputs data,
      plan.pod.initContainers.filter (·.name == "s3-fetch") = [fetch] ∧
      fetch.args = some (inputArgs ++ dataArgs) ∧ plan.primary.command = some words ∧
      List.Forall₂ (Delivered inputRoot) workflow.spec.inputs inputs ∧
      List.Forall₂ (Delivered dataRoot) workflow.spec.data data ∧
      Requests (NamedBefore inputRoot) "-i" inputRoot inputs inputArgs ∧
      Requests (NamedBefore dataRoot) "-d" dataRoot data dataArgs ∧
      (∀ entry ∈ inputs, ["-i", entry] <:+: words) ∧ ∀ entry ∈ data, ["-d", entry] <:+: words := by
  obtain ⟨b, hb⟩ := Option.isSome_iff_exists.1 hbucket
  obtain ⟨source, fetches, -, hfetches, rfl⟩ := exists_planWith h
  obtain ⟨fetch, hfetch, rfl⟩ := exists_bucketFetch_of_fetchContainers hb hfetches
  have hinputs := workflow.spec.forall₂_delivered_inputs
  have hdata := workflow.spec.forall₂_delivered_data
  obtain ⟨hinputWords, hdataWords⟩ := infix_launcherWords
    (normalized workflow.spec defaults source.kind) source
    ((normalized workflow.spec defaults source.kind).package.getD {})
  rw [if_pos hbucket] at hinputs hdata
  rw [inputs_normalized] at hinputWords
  rw [data_normalized] at hdataWords
  refine ⟨fetch, _, _, _, _, _, ?_, args_bucketFetch hfetch, rfl, hinputs, hdata,
    requests_bucketArgs (by decide) (by decide) _ _,
    requests_bucketArgs (by decide) (by decide) _ _, hinputWords, hdataWords⟩
  rw [Plan.initContainers_pod]
  exact filter_fetches hfetch

/-- A workflow with references of every kind to files in its bucket. -/
def referringWorkflow : Workflow where
  metadata := { name := some "w" }
  spec :=
    { instanceName := some "run"
      inputs := [":a", "b\\:c", "/elsewhere:d", "/tmp/s3-root-dir/input/e:f"]
      data := ["d.csv:renamed.csv"]
      bucketInput := some {} }

theorem bucketArgs_delivered_referringWorkflow :
    ∃ plan, compile referringWorkflow {} {} = .ok plan ∧
      ∃ fetch inputs data, plan.pod.initContainers.filter (·.name == "s3-fetch") = [fetch] ∧
        fetch.args = some ["-i", ":a", "-i", "b:c", "-i", "e", "-d", "d.csv"] ∧
        List.Forall₂ (Delivered "/tmp/s3-root-dir/input") referringWorkflow.spec.inputs inputs ∧
        List.Forall₂ (Delivered "/tmp/s3-root-dir/data") referringWorkflow.spec.data data := by
  obtain ⟨plan, hplan⟩ : ∃ plan, compile referringWorkflow {} {} = .ok plan := ⟨_, rfl⟩
  obtain ⟨fetch, inputArgs, dataArgs, words, inputs, data, hfetch, hargs, -, hinputs, hdata, -⟩ :=
    bucketArgs_delivered rfl hplan
  refine ⟨plan, hplan, fetch, inputs, data, hfetch, ?_, hinputs, hdata⟩
  obtain rfl := Except.ok.inj hplan
  obtain rfl := (List.cons.inj hfetch).1
  decide

/-- A workflow with a reference that lacks a source. -/
def sourcelessWorkflow : Workflow where
  metadata := { name := some "w" }
  spec := { instanceName := some "run", inputs := [":a"], bucketInput := some {} }

/-- A file need not be the one its entry names: `:a` is fetched, but the launcher is to read a
directory. -/
theorem not_forall_requests_named :
    ¬ ∀ (workflow : Workflow) (defaults : Operator.Defaults) (environment : Operator.Environment)
      (plan : Plan), workflow.spec.bucketInput.isSome →
      compile workflow defaults environment = .ok plan →
      let inputRoot := "/tmp/s3-root-dir/input"
      let dataRoot := "/tmp/s3-root-dir/data"
      ∃ fetch inputArgs dataArgs inputs data,
        plan.pod.initContainers.filter (·.name == "s3-fetch") = [fetch] ∧
        fetch.args = some (inputArgs ++ dataArgs) ∧
        List.Forall₂ (Delivered inputRoot) workflow.spec.inputs inputs ∧
        List.Forall₂ (Delivered dataRoot) workflow.spec.data data ∧
        Requests (Named inputRoot) "-i" inputRoot inputs inputArgs ∧
        Requests (Named dataRoot) "-d" dataRoot data dataArgs := by
  intro h
  obtain ⟨plan, hplan⟩ : ∃ plan, compile sourcelessWorkflow {} {} = .ok plan := ⟨_, rfl⟩
  obtain ⟨fetch, inputArgs, dataArgs, inputs, data, hfetch, hargs, hinputs, -, hrequests, -⟩ :=
    h sourcelessWorkflow {} {} plan rfl hplan
  have hfetched : fetch.args = some ["-i", ":a"] := by
    obtain rfl := Except.ok.inj hplan
    obtain rfl := (List.cons.inj hfetch).1
    decide
  obtain ⟨entry, entries, hentry, hentries, rfl⟩ := List.forall₂_cons_left_iff.1 hinputs
  obtain rfl := hentry.relative (by decide)
  cases hrequests with
  | elsewhere other => exact other ":a" rfl
  | @fetched _ name _ args _ named _ =>
    rw [hfetched] at hargs
    obtain ⟨-, hname⟩ := List.cons.inj (Option.some.inj hargs)
    obtain ⟨rfl, -⟩ := List.cons.inj hname
    exact absurd named (by unfold Named; decide)

end WorkflowPod.Compile
