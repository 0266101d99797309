import Mathlib.Data.Option.Defs
import WorkflowPod.Proofs.Workflow.Normal
import WorkflowPod.Workflow.Resources

/-!
Specs with and without some of what is blank in them: empty texts, volumes without a name, and
records in which all is blank. Main statement: the passes keep it at that.
-/
namespace WorkflowPod.Workflow

open Manifest

/-- The second value is the first with blanks taken away: some of those in it, or all of it. -/
inductive PrunedOption {α : Type} (isBlank : α → Prop) (pruned : α → α → Prop) :
    Option α → Option α → Prop where
  | absent : PrunedOption isBlank pruned none none
  | kept {a b : α} (h : pruned a b) : PrunedOption isBlank pruned (some a) (some b)
  | dropped {a : α} (h : isBlank a) : PrunedOption isBlank pruned (some a) none

abbrev PrunedText : Option String → Option String → Prop := PrunedOption (· = "") (· = ·)

abbrev PrunedVolume : Option Volume → Option Volume → Prop := PrunedOption (·.name = "") (· = ·)

structure Package.Pruned (package package' : Package) : Prop where
  url : PrunedText package.url package'.url
  branch : PrunedText package.branch package'.branch
  commitId : PrunedText package.commitId package'.commitId
  mount : PrunedText package.mount package'.mount
  gitSecret : PrunedText package.gitSecret package'.gitSecret
  fromConfigMap : PrunedText package.fromConfigMap package'.fromConfigMap
  fromPath : PrunedText package.fromPath package'.fromPath
  withManifest : PrunedText package.withManifest package'.withManifest

/-- All of it is blank: with every blank taken away nothing is left. -/
def Package.IsBlank (package : Package) : Prop := package.Pruned {}

structure Amounts.Pruned (amounts amounts' : Amounts) : Prop where
  cpu : PrunedText amounts.cpu amounts'.cpu
  memory : PrunedText amounts.memory amounts'.memory

def Amounts.IsBlank (amounts : Amounts) : Prop := amounts.Pruned {}

abbrev PrunedAmounts : Option Amounts → Option Amounts → Prop :=
  PrunedOption Amounts.IsBlank Amounts.Pruned

structure Overrides.Pruned (overrides overrides' : Overrides) : Prop where
  launcher : PrunedAmounts overrides.launcher overrides'.launcher
  monitor : PrunedAmounts overrides.monitor overrides'.monitor
  fetch : PrunedAmounts overrides.fetch overrides'.fetch

def Overrides.IsBlank (overrides : Overrides) : Prop := overrides.Pruned {}

structure Credential.Pruned (credential credential' : Credential) : Prop where
  value : PrunedText credential.value credential'.value
  valueFrom : credential.valueFrom = credential'.valueFrom

structure Bucket.Pruned (b b' : Bucket) : Prop where
  dataset : PrunedText b.dataset b'.dataset
  accessKeyId : b.accessKeyId.Pruned b'.accessKeyId
  secretAccessKey : b.secretAccessKey.Pruned b'.secretAccessKey
  endpoint : b.endpoint.Pruned b'.endpoint
  bucket : b.bucket.Pruned b'.bucket
  region : b.region.Pruned b'.region

structure Spec.Pruned (spec spec' : Spec) : Prop where
  image : PrunedText spec.image spec'.image
  imagePullSecrets : spec.imagePullSecrets = spec'.imagePullSecrets
  package : PrunedOption Package.IsBlank Package.Pruned spec.package spec'.package
  instanceName : PrunedText spec.instanceName spec'.instanceName
  debug : spec.debug = spec'.debug
  command : PrunedText spec.command spec'.command
  volumes : spec.volumes = spec'.volumes
  volumeMounts : spec.volumeMounts = spec'.volumeMounts
  workingVolume : PrunedVolume spec.workingVolume spec'.workingVolume
  inputDataVolume : PrunedVolume spec.inputDataVolume spec'.inputDataVolume
  inputs : spec.inputs = spec'.inputs
  variableFiles : spec.variableFiles = spec'.variableFiles
  data : spec.data = spec'.data
  additionalOptions : spec.additionalOptions = spec'.additionalOptions
  resources : PrunedOption Overrides.IsBlank Overrides.Pruned spec.resources spec'.resources
  env : spec.env = spec'.env
  /-- A bucket stays, whatever is blank in it. -/
  bucketInput : Option.Rel Bucket.Pruned spec.bucketInput spec'.bucketInput
  bucketFetchImage : PrunedText spec.bucketFetchImage spec'.bucketFetchImage

theorem PrunedText.given_eq {value value' : Option String} (h : PrunedText value value') :
    given value = given value' := by
  cases h with
  | absent => rfl
  | kept h => rw [h]
  | dropped h => simp [given, Option.filter, h]

theorem PrunedVolume.named_eq {volume? volume?' : Option Volume} (h : PrunedVolume volume? volume?') :
    named volume? = named volume?' := by
  cases h with
  | absent => rfl
  | kept h => rw [h]
  | dropped h => simp [named, Option.filter, h]

@[refl]
theorem PrunedText.refl (value : Option String) : PrunedText value value := by
  cases value with
  | none => exact .absent
  | some text => exact .kept rfl

@[refl]
theorem PrunedVolume.refl (volume? : Option Volume) : PrunedVolume volume? volume? := by
  cases volume? with
  | none => exact .absent
  | some volume => exact .kept rfl

/-- Where nothing is as good as a blank, it may be put in the place of what is absent. -/
theorem PrunedOption.getD {α : Type} {pruned : α → α → Prop} {blank : α} {value value' : Option α}
    (h : PrunedOption (pruned · blank) pruned value value') (hblank : pruned blank blank) :
    pruned (value.getD blank) (value'.getD blank) := by
  cases h with
  | absent => exact hblank
  | kept h => exact h
  | dropped h => exact h

theorem Package.pruned_empty : Package.Pruned {} {} :=
  ⟨.absent, .absent, .absent, .absent, .absent, .absent, .absent, .absent⟩

theorem Spec.Pruned.package_getD {spec spec' : Spec} (h : spec.Pruned spec') :
    (spec.package.getD {}).Pruned (spec'.package.getD {}) :=
  PrunedOption.getD h.package Package.pruned_empty

theorem Role.override?_pruned (role : Role) {overrides overrides' : Overrides}
    (h : overrides.Pruned overrides') :
    PrunedAmounts (role.override? overrides) (role.override? overrides') := by
  cases role with
  | fetch => exact h.fetch
  | monitor => exact h.monitor
  | launcher => exact h.launcher

theorem Role.requirements_eq_of_pruned (role : Role) {overrides? overrides?' : Option Overrides}
    (h : PrunedOption Overrides.IsBlank Overrides.Pruned overrides? overrides?') :
    role.requirements overrides? = role.requirements overrides?' := by
  have hgetD (overrides? : Option Overrides) :
      overrides?.bind role.override? = role.override? (overrides?.getD {}) := by
    cases overrides? with
    | none => cases role <;> rfl
    | some overrides => rfl
  have hoverrides : (overrides?.getD {}).Pruned (overrides?'.getD {}) :=
    PrunedOption.getD h ⟨.absent, .absent, .absent⟩
  have hamounts : ((overrides?.bind role.override?).getD {}).Pruned
      ((overrides?'.bind role.override?).getD {}) := by
    rw [hgetD, hgetD]
    exact PrunedOption.getD (role.override?_pruned hoverrides) ⟨.absent, .absent⟩
  simp only [requirements, hamounts.cpu.given_eq, hamounts.memory.given_eq]

theorem orDefault_eq_of_pruned {value value' : Option String} (h : PrunedText value value')
    (default : String) : orDefault value default = orDefault value' default := by
  rw [orDefault, orDefault, h.given_eq]

theorem Package.Pruned.withSecret {package package' : Package} (h : package.Pruned package')
    (secret : String) : (package.withSecret secret).Pruned (package'.withSecret secret) := by
  unfold Package.withSecret
  rw [h.gitSecret.given_eq]
  split
  · exact { h with gitSecret := .refl _ }
  · exact h

theorem Package.withSecret_empty (package : Package) : package.withSecret "" = package :=
  if_neg fun h => h.2 rfl

/-- A package that is dropped would not have been given a secret. -/
theorem PrunedOption.map_withSecret {package? package?' : Option Package} {secret : String}
    (h : PrunedOption Package.IsBlank Package.Pruned package? package?')
    (hdropped : package?' = none → secret = "") :
    PrunedOption Package.IsBlank Package.Pruned (package?.map (·.withSecret secret))
      (package?'.map (·.withSecret secret)) := by
  cases h with
  | absent => exact .absent
  | kept h => exact .kept (h.withSecret secret)
  | @dropped package h =>
    obtain rfl := hdropped rfl
    have hblank : (package.withSecret "").IsBlank := by rwa [package.withSecret_empty]
    exact .dropped hblank

namespace Spec.Pruned

variable {spec spec' : Spec}

theorem isSome_bucketInput (h : spec.Pruned spec') :
    spec.bucketInput.isSome = spec'.bucketInput.isSome := by
  have hbucket := h.bucketInput
  revert hbucket
  cases spec.bucketInput <;> cases spec'.bucketInput <;> simp

theorem withDefaults (h : spec.Pruned spec') (defaults : Operator.Defaults)
    {kind : Package.SourceKind}
    (hdropped : spec'.package = none → defaultSecret defaults kind = "") :
    (spec.withDefaults defaults kind).Pruned (spec'.withDefaults defaults kind) where
  __ := h
  image := by
    rw [Spec.withDefaults, Spec.withDefaults, orDefault_eq_of_pruned h.image]
  imagePullSecrets := by
    simp only [Spec.withDefaults, h.imagePullSecrets]
  package := h.package.map_withSecret hdropped
  workingVolume := by
    simp only [Spec.withDefaults, h.workingVolume.named_eq]
    exact .refl _
  bucketFetchImage := by
    rw [Spec.withDefaults, Spec.withDefaults, orDefault_eq_of_pruned h.bucketFetchImage]

theorem withoutInputVolume (h : spec.Pruned spec') :
    spec.withoutInputVolume.Pruned spec'.withoutInputVolume := by
  have hnamed := h.inputDataVolume.named_eq
  cases hvolume : named spec'.inputDataVolume with
  | none =>
    rw [Spec.withoutInputVolume_of_none _ hvolume,
      Spec.withoutInputVolume_of_none _ (hnamed.trans hvolume)]
    exact h
  | some volume =>
    rw [Spec.withoutInputVolume_of_some _ hvolume,
      Spec.withoutInputVolume_of_some _ (hnamed.trans hvolume)]
    exact
      { h with
        inputDataVolume := .refl _
        volumes := by rw [h.volumes]
        volumeMounts := by rw [h.volumeMounts] }

theorem withAbsolutePaths (h : spec.Pruned spec') :
    spec.withAbsolutePaths.Pruned spec'.withAbsolutePaths where
  __ := h
  inputs := by simp only [Spec.withAbsolutePaths, h.inputs, h.isSome_bucketInput]
  variableFiles := by simp only [Spec.withAbsolutePaths, h.variableFiles]
  data := by simp only [Spec.withAbsolutePaths, h.data, h.isSome_bucketInput]

end Spec.Pruned

end WorkflowPod.Workflow
