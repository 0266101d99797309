import Mathlib.Data.List.Dedup
import Mathlib.Data.List.Perm.Basic
import WorkflowPod.Workflow.Normal

/-!
The passes over a spec, run in any order and any number of times. Main statement: it makes no
difference but for which of them are run.
-/
namespace WorkflowPod.Workflow

open Manifest

theorem given_some {text : String} (h : text ≠ "") : given (some text) = some text := by
  simp [given, Option.filter, h]

theorem ne_of_given {value : Option String} {text : String} (h : given value = some text) :
    text ≠ "" := by
  simpa using (Option.filter_eq_some_iff.1 h).2

theorem orDefault_orDefault (value : Option String) (default : String) :
    orDefault (orDefault value default) default = orDefault value default := by
  have hdefault : orDefault (some default) default = some default := by
    by_cases h : default = ""
    · simp [orDefault, given, Option.filter, h]
    · simp [orDefault, given_some h]
  cases h : given value with
  | none =>
    have hset : orDefault value default = some default := by rw [orDefault, h, Option.getD_none]
    rw [hset, hdefault]
  | some text =>
    have hkept : orDefault value default = some text := by rw [orDefault, h, Option.getD_some]
    rw [hkept, orDefault, given_some (ne_of_given h), Option.getD_some]

theorem Package.withSecret_withSecret (package : Package) (secret : String) :
    (package.withSecret secret).withSecret secret = package.withSecret secret := by
  by_cases h : (given package.gitSecret).isNone ∧ ¬secret.isEmpty
  · have hset : package.withSecret secret = { package with gitSecret := some secret } := if_pos h
    have hgiven : given (some secret) = some secret := given_some (by simpa using h.2)
    rw [hset]
    exact if_neg (by simp [hgiven])
  · have hkept : package.withSecret secret = package := if_neg h
    rw [hkept, hkept]

theorem named_some {volume : Volume} (h : volume.name ≠ "") : named (some volume) = some volume := by
  simp [named, Option.filter, h]

theorem name_ne_of_named {volume? : Option Volume} {volume : Volume}
    (h : named volume? = some volume) : volume.name ≠ "" := by
  simpa using (Option.filter_eq_some_iff.1 h).2

theorem name_defaultWorkingVolume (defaults : Operator.Defaults) :
    (defaultWorkingVolume defaults).name = workingVolumeName := by
  unfold defaultWorkingVolume
  split <;> rfl

/-- A working volume that has been filled in has a name. -/
theorem named_getD_defaultWorkingVolume (volume? : Option Volume) (defaults : Operator.Defaults) :
    named (some ((named volume?).getD (defaultWorkingVolume defaults))) =
      some ((named volume?).getD (defaultWorkingVolume defaults)) := by
  refine named_some ?_
  cases h : named volume? with
  | none =>
    rw [Option.getD_none, name_defaultWorkingVolume]
    decide
  | some volume => exact name_ne_of_named h

namespace Spec

theorem isAbsolute_append {root : String} (h : Path.isAbsolute root) (path : String) :
    Path.isAbsolute (root ++ path) := by
  cases hroot : root.toList with
  | nil => simp [Path.isAbsolute, Path.isRooted, hroot] at h
  | cons c s =>
    obtain rfl : c = '/' := by
      by_contra hne
      simp [Path.isAbsolute, Path.isRooted, hroot, hne] at h
    simp [Path.isAbsolute, Path.isRooted, hroot]

theorem underRoot_of_absolute {path : String} (h : Path.isAbsolute path) (root : String) :
    underRoot root path = path := if_pos h

theorem underRoot_of_relative {path : String} (h : ¬Path.isAbsolute path) (root : String) :
    underRoot root path = root ++ "/" ++ path := if_neg h

theorem isAbsolute_underRoot {root : String} (hroot : Path.isAbsolute root) (path : String) :
    Path.isAbsolute (underRoot root path) := by
  by_cases h : Path.isAbsolute path
  · rwa [underRoot_of_absolute h]
  · rw [underRoot_of_relative h, String.append_assoc]
    exact isAbsolute_append hroot _

theorem underRoot_underRoot {root : String} (hroot : Path.isAbsolute root) (path : String) :
    underRoot root (underRoot root path) = underRoot root path :=
  underRoot_of_absolute (isAbsolute_underRoot hroot path) root

theorem map_underRoot_underRoot {root : String} (hroot : Path.isAbsolute root)
    (paths : List String) :
    (paths.map (underRoot root)).map (underRoot root) = paths.map (underRoot root) := by
  rw [List.map_map]
  exact List.map_congr_left fun path _ => underRoot_underRoot hroot path

variable (spec : Spec) (defaults : Operator.Defaults) (kind : Package.SourceKind)

theorem withoutInputVolume_of_none (h : named spec.inputDataVolume = none) :
    spec.withoutInputVolume = spec := by
  rw [withoutInputVolume, h]

theorem withoutInputVolume_of_some {volume : Volume} (h : named spec.inputDataVolume = some volume) :
    spec.withoutInputVolume =
      { spec with
        inputDataVolume := none
        volumes := spec.volumes ++ [volume]
        volumeMounts := spec.volumeMounts ++ [.ofVolume volume.name inputRoot] } := by
  rw [withoutInputVolume, h]

theorem withDefaults_withDefaults :
    (spec.withDefaults defaults kind).withDefaults defaults kind =
      spec.withDefaults defaults kind := by
  unfold withDefaults
  congr 1
  case e_image => exact orDefault_orDefault _ _
  case e_imagePullSecrets =>
    dsimp only
    split_ifs <;> rfl
  case e_package =>
    rw [Option.map_map]
    exact Option.map_congr fun package _ => package.withSecret_withSecret _
  case e_workingVolume => rw [named_getD_defaultWorkingVolume, Option.getD_some]
  case e_bucketFetchImage => exact orDefault_orDefault _ _

theorem withoutInputVolume_withoutInputVolume :
    spec.withoutInputVolume.withoutInputVolume = spec.withoutInputVolume := by
  cases h : named spec.inputDataVolume with
  | none => rw [spec.withoutInputVolume_of_none h, spec.withoutInputVolume_of_none h]
  | some volume =>
    rw [spec.withoutInputVolume_of_some h]
    exact withoutInputVolume_of_none _ rfl

/-- Files come from absolute directories, be there a bucket or not. -/
theorem isAbsolute_root {p : Prop} [Decidable p] {root : String} (h : Path.isAbsolute root) :
    Path.isAbsolute (if p then root else inputRoot) := by
  have hvolume : Path.isAbsolute inputRoot := by decide
  split <;> assumption

theorem withAbsolutePaths_withAbsolutePaths :
    spec.withAbsolutePaths.withAbsolutePaths = spec.withAbsolutePaths := by
  simp only [withAbsolutePaths]
  congr 1
  case e_inputs => exact map_underRoot_underRoot (isAbsolute_root (by decide)) _
  case e_variableFiles => exact map_underRoot_underRoot (by decide) _
  case e_data => exact map_underRoot_underRoot (isAbsolute_root (by decide)) _

theorem isAbsolute_of_mem_withAbsolutePaths {path : String}
    (h : path ∈ spec.withAbsolutePaths.inputs ++ spec.withAbsolutePaths.variableFiles ++
      spec.withAbsolutePaths.data) : Path.isAbsolute path := by
  simp only [withAbsolutePaths, List.mem_append] at h
  obtain (h | h) | h := h
  · obtain ⟨file, -, rfl⟩ := List.mem_map.1 h
    exact isAbsolute_underRoot (isAbsolute_root (by decide)) file
  · obtain ⟨file, -, rfl⟩ := List.mem_map.1 h
    exact isAbsolute_underRoot (by decide) file
  · obtain ⟨file, -, rfl⟩ := List.mem_map.1 h
    exact isAbsolute_underRoot (isAbsolute_root (by decide)) file

end Spec

/-- A pass over a spec. -/
inductive Pass where
  | defaults
  | inputVolume
  | absolutePaths
  deriving DecidableEq, Repr

namespace Pass

/-- The passes in the order of compilation. -/
def all : List Pass := [defaults, inputVolume, absolutePaths]

variable (defaults : Operator.Defaults) (kind : Package.SourceKind)

def apply : Pass → Spec → Spec
  | .defaults, spec => spec.withDefaults defaults kind
  | .inputVolume, spec => spec.withoutInputVolume
  | .absolutePaths, spec => spec.withAbsolutePaths

/-- The spec after some passes, from first to last. -/
def run (passes : List Pass) (spec : Spec) : Spec :=
  passes.foldl (fun spec pass => pass.apply defaults kind spec) spec

theorem apply_apply (pass : Pass) (spec : Spec) :
    pass.apply defaults kind (pass.apply defaults kind spec) = pass.apply defaults kind spec := by
  cases pass with
  | defaults => exact spec.withDefaults_withDefaults defaults kind
  | inputVolume => exact spec.withoutInputVolume_withoutInputVolume
  | absolutePaths => exact spec.withAbsolutePaths_withAbsolutePaths

theorem apply_withoutInputVolume {pass : Pass} (hpass : pass ≠ .inputVolume) (spec : Spec) :
    pass.apply defaults kind spec.withoutInputVolume =
      (pass.apply defaults kind spec).withoutInputVolume := by
  have hread : (pass.apply defaults kind spec).inputDataVolume = spec.inputDataVolume := by
    cases pass with
    | inputVolume => exact absurd rfl hpass
    | defaults | absolutePaths => rfl
  cases h : named spec.inputDataVolume with
  | none => rw [spec.withoutInputVolume_of_none h, Spec.withoutInputVolume_of_none _ (hread ▸ h)]
  | some volume =>
    rw [spec.withoutInputVolume_of_some h, Spec.withoutInputVolume_of_some _ (hread ▸ h)]
    cases pass with
    | inputVolume => exact absurd rfl hpass
    | defaults | absolutePaths => rfl

/-- No pass reads what another writes. -/
theorem apply_comm (pass pass' : Pass) (spec : Spec) :
    pass.apply defaults kind (pass'.apply defaults kind spec) =
      pass'.apply defaults kind (pass.apply defaults kind spec) := by
  by_cases h : pass = .inputVolume
  · subst h
    by_cases h' : pass' = .inputVolume
    · rw [h']
    · exact (apply_withoutInputVolume defaults kind h' spec).symm
  · by_cases h' : pass' = .inputVolume
    · subst h'
      exact apply_withoutInputVolume defaults kind h spec
    -- The other two only set fields, so that their order is a matter of computation.
    · cases pass <;> cases pass' <;> first | rfl | contradiction

/-- A pass makes no difference before a run that it is part of. -/
theorem run_apply_of_mem {pass : Pass} {passes : List Pass} (h : pass ∈ passes) (spec : Spec) :
    run defaults kind passes (pass.apply defaults kind spec) = run defaults kind passes spec := by
  induction passes generalizing spec with
  | nil => cases h
  | cons first rest ih =>
    rcases List.mem_cons.1 h with rfl | hrest
    · simp only [run, List.foldl_cons, apply_apply]
    · -- Up to where it occurs the pass changes places with those before it.
      have hswap := apply_comm defaults kind first pass spec
      simpa only [run, List.foldl_cons, hswap] using ih hrest (first.apply defaults kind spec)

/-- Repetitions make no difference. -/
theorem run_dedup (passes : List Pass) (spec : Spec) :
    run defaults kind passes.dedup spec = run defaults kind passes spec := by
  induction passes generalizing spec with
  | nil => rfl
  | cons first rest ih =>
    have hrun : run defaults kind (first :: rest) spec =
        run defaults kind rest (first.apply defaults kind spec) := rfl
    by_cases h : first ∈ rest
    · rw [List.dedup_cons_of_mem h, ih, hrun, run_apply_of_mem defaults kind h]
    · rw [List.dedup_cons_of_notMem h, hrun, ← ih]
      rfl

/-- The order makes no difference. -/
theorem run_perm {passes passes' : List Pass} (h : passes.Perm passes') (spec : Spec) :
    run defaults kind passes spec = run defaults kind passes' spec :=
  h.foldl_eq' (fun pass _ pass' _ spec => apply_comm defaults kind pass' pass spec) spec

/-- The passes that occur, in the order of compilation. -/
def occurring (passes : List Pass) : List Pass := all.filter (· ∈ passes)

theorem mem_all (pass : Pass) : pass ∈ all := by
  cases pass <;> decide

theorem run_eq_run_occurring (passes : List Pass) (spec : Spec) :
    run defaults kind passes spec = run defaults kind (occurring passes) spec := by
  have hperm : passes.dedup.Perm (occurring passes) := by
    have hall : all.Nodup := by decide
    refine (List.perm_ext_iff_of_nodup passes.nodup_dedup (hall.filter _)).2 fun pass => ?_
    simp [mem_all]
  rw [← run_dedup, run_perm defaults kind hperm]

/-- Passes that have run already make no difference before all of them. -/
theorem run_all_run (passes : List Pass) (spec : Spec) :
    run defaults kind all (run defaults kind passes spec) = run defaults kind all spec := by
  have hoccur : occurring (passes ++ all) = all := by
    simp [occurring, mem_all]
  have hrun : run defaults kind (passes ++ all) spec =
      run defaults kind all (run defaults kind passes spec) := List.foldl_append
  rw [← hrun, run_eq_run_occurring, hoccur]

end Pass

end WorkflowPod.Workflow
