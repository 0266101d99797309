import WorkflowPod.Compile.Basic
import WorkflowPod.Proofs.Package.Source
import WorkflowPod.Proofs.Workflow.Normal

/-!
Compiling a workflow whose spec some of the passes have been over already. Main statement: it comes
to the same plan, or to the same fault.
-/
namespace WorkflowPod.Compile

open Workflow Package

variable (defaults : Operator.Defaults) (kind : SourceKind)

theorem ofPackage_withSecret (package : Workflow.Package) (secret : String) :
    Source.ofPackage (package.withSecret secret) = Source.ofPackage package := by
  unfold Package.withSecret
  split <;> rfl

theorem classify_apply (pass : Pass) (spec : Spec) :
    Source.classify (pass.apply defaults kind spec) = Source.classify spec := by
  cases pass with
  | defaults =>
    cases h : spec.package with
    | none => simp [Pass.apply, Spec.withDefaults, Source.classify, h]
    | some package =>
      simp [Pass.apply, Spec.withDefaults, Source.classify, h, ofPackage_withSecret]
  | inputVolume =>
    cases h : named spec.inputDataVolume with
    | none => rw [Pass.apply, spec.withoutInputVolume_of_none h]
    | some volume => rw [Pass.apply, spec.withoutInputVolume_of_some h]; rfl
  | absolutePaths => rfl

theorem classify_run (passes : List Pass) (spec : Spec) :
    Source.classify (Pass.run defaults kind passes spec) = Source.classify spec := by
  induction passes generalizing spec with
  | nil => rfl
  | cons pass rest ih => exact (ih _).trans (classify_apply defaults kind pass spec)

theorem normalized_eq_run (spec : Spec) :
    normalized spec defaults kind = Pass.run defaults kind Pass.all spec := rfl

theorem normalized_run (passes : List Pass) (spec : Spec) :
    normalized (Pass.run defaults kind passes spec) defaults kind =
      normalized spec defaults kind := by
  rw [normalized_eq_run, normalized_eq_run, Pass.run_all_run]

variable {defaults kind} {workflow : Workflow} {environment : Operator.Environment}

theorem compile_of_ok {source : Source} (h : Source.classify workflow.spec = .ok source) :
    compile workflow defaults environment =
      planOf workflow (normalized workflow.spec defaults source.kind) source defaults
        environment := by
  rw [compile, h]
  rfl

theorem compile_of_error {fault : SpecFault} (h : Source.classify workflow.spec = .error fault) :
    compile workflow defaults environment = .error fault := by
  rw [compile, h]
  rfl

/-- Of the workflow itself a plan has all but the spec. -/
theorem planOf_with_spec (workflow : Workflow) (spec spec' : Spec) (source : Source)
    (defaults : Operator.Defaults) (environment : Operator.Environment) :
    planOf { workflow with spec := spec' } spec source defaults environment =
      planOf workflow spec source defaults environment := rfl

/-- Two specs for the same workflow make no difference if they are the same in source and after the
passes, but for what a plan does not depend on. -/
theorem compile_congr {spec' : Spec}
    (hclassify : Source.classify workflow.spec = Source.classify spec')
    (hplan : ∀ source, Source.classify workflow.spec = .ok source →
      planOf workflow (normalized workflow.spec defaults source.kind) source defaults environment =
        planOf workflow (normalized spec' defaults source.kind) source defaults environment) :
    compile workflow defaults environment =
      compile { workflow with spec := spec' } defaults environment := by
  cases h : Source.classify workflow.spec with
  | error fault => rw [compile_of_error h, compile_of_error (hclassify ▸ h)]
  | ok source =>
    have h' : Source.classify { workflow with spec := spec' }.spec = .ok source := hclassify ▸ h
    rw [compile_of_ok h, compile_of_ok h', hplan source h, planOf_with_spec workflow _ spec']

variable (defaults kind)

/-- The passes come to the same in any order and with any repetitions, they leave the source alone,
and it makes no difference to a plan if they have been run before. -/
theorem compile_run (workflow : Workflow) (passes : List Pass) :
    Pass.run defaults kind passes workflow.spec =
        Pass.run defaults kind (Pass.occurring passes) workflow.spec ∧
      Source.classify (Pass.run defaults kind passes workflow.spec) =
        Source.classify workflow.spec ∧
      ((∀ source, Source.classify workflow.spec = .ok source → source.kind = kind) →
        ∀ environment, compile
          { workflow with spec := Pass.run defaults kind passes workflow.spec } defaults
            environment = compile workflow defaults environment) := by
  refine ⟨Pass.run_eq_run_occurring defaults kind passes _, classify_run defaults kind passes _,
    fun hkind environment => ?_⟩
  refine (compile_congr (classify_run defaults kind passes _).symm fun source hsource => ?_).symm
  rw [hkind source hsource, normalized_run]

/-- A workflow with something to do for every pass. -/
def untidyWorkflow : Workflow where
  metadata := { name := some "w" }
  spec :=
    { image := some ""
      package := some { url := some "git@host:repo.git" }
      inputDataVolume := some (.ofClaim "inputs" "claim")
      inputs := ["a.txt"] }

theorem compile_run_untidyWorkflow :
    let defaults : Operator.Defaults := { launcherImage := "image", sshSecret := "key" }
    let spec := Pass.run defaults .ssh [.absolutePaths, .inputVolume, .defaults, .inputVolume]
      untidyWorkflow.spec
    Source.classify untidyWorkflow.spec = .ok (.ssh "git@host:repo.git") ∧
      spec ≠ untidyWorkflow.spec ∧
      compile { untidyWorkflow with spec := spec } defaults {} =
        compile untidyWorkflow defaults {} := by
  intro defaults spec
  have hsource : Source.classify untidyWorkflow.spec = .ok (.ssh "git@host:repo.git") := by decide
  have hkind : ∀ source, Source.classify untidyWorkflow.spec = .ok source → source.kind = .ssh := by
    rw [hsource]
    rintro source ⟨⟩
    rfl
  exact ⟨hsource, by decide, (compile_run defaults .ssh untidyWorkflow _).2.2 hkind {}⟩

end WorkflowPod.Compile
