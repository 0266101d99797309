import WorkflowPod.Manifest.Object
import WorkflowPod.Proofs.Yaml.Document

/-!
What is written for the objects of a cluster is read back from YAML: all their scalars are texts,
truth values and integers of at most sixty-four bits.
-/
namespace WorkflowPod.Json

open Yaml (Readable)

variable {α : Type}

/-- Whatever is written for a value is read back from YAML. -/
def Codec.IsReadable (c : Codec α) : Prop := ∀ a, Readable (c.encode a)

/-- Whatever is written for a member, if anything is, is read back from YAML. -/
def Member.IsReadable (m : Member α) : Prop := ∀ a, ∀ json ∈ m.write a, Readable json

namespace Members

/-- Each member is read back from YAML. -/
def IsReadable : {τ : Type} → Members τ → Prop
  | _, nil => True
  | _, cons first rest => first.IsReadable ∧ rest.IsReadable

@[simp] theorem isReadable_nil : nil.IsReadable := trivial

@[simp] theorem isReadable_cons {α τ : Type} {first : Member α} {rest : Members τ} :
    (cons first rest).IsReadable ↔ first.IsReadable ∧ rest.IsReadable := Iff.rfl

theorem readable_of_mem_write {τ : Type} (ms : Members τ) (h : ms.IsReadable) (values : τ) :
    ∀ e ∈ ms.write values, Readable e.2 := by
  induction ms with
  | nil => simp [write]
  | cons first rest ih =>
    obtain ⟨a, values⟩ := values
    obtain ⟨hfirst, hrest⟩ := h
    rw [write]
    cases hwrite : first.write a with
    | none => exact ih hrest values
    | some json => exact List.forall_mem_cons.2 ⟨hfirst a json hwrite, ih hrest values⟩

end Members

namespace Member

variable {c : Codec α} (h : c.IsReadable) (key : String)

include h

@[simp] theorem isReadable_optional : (optional key c).IsReadable := by
  rintro (_ | a) json hjson
  · cases hjson
  · obtain rfl : c.encode a = json := by simpa [optional] using hjson
    exact h a

@[simp] theorem isReadable_orBlank (blank : α) : (orBlank key c blank).IsReadable := by
  intro a json hjson
  obtain rfl : c.encode a = json := by simpa [orBlank] using hjson
  exact h a

end Member

namespace Codec

@[simp] theorem isReadable_text : text.IsReadable := .str

@[simp] theorem isReadable_bool : bool.IsReadable := .bool

@[simp] theorem isReadable_int64 : int64.IsReadable := by
  intro n
  have hlow := n.le_toInt
  have hhigh := n.toInt_lt
  refine .int ?_ ?_ <;> simp only [Yaml.wideSize, UInt64.size] <;> omega

@[simp] theorem isReadable_int32 : int32.IsReadable := by
  intro n
  have hlow := n.le_toInt
  have hhigh := n.toInt_lt
  refine .int ?_ ?_ <;> simp only [Yaml.wideSize, UInt64.size] <;> omega

@[simp] theorem isReadable_instant : Manifest.instant.IsReadable := fun _ => .str _

@[simp] theorem isReadable_list {c : Codec α} (h : c.IsReadable) : c.list.IsReadable := by
  intro values
  refine .arr fun json hjson => ?_
  obtain ⟨a, -, rfl⟩ := List.mem_map.1 hjson
  exact h a

@[simp] theorem isReadable_dict {c : Codec α} (h : c.IsReadable) : c.dict.IsReadable := by
  intro m
  refine .obj fun e he => ?_
  obtain ⟨entry, -, rfl⟩ := List.mem_map.1 he
  exact h entry.2

variable {τ : Type} {members : Members τ}

theorem isReadable_object {toTuple : α → τ} {ofTuple : τ → α} (h : members.IsReadable) :
    (object members toTuple ofTuple).IsReadable :=
  fun a => .obj (members.readable_of_mem_write h (toTuple a))

end Codec

end WorkflowPod.Json

namespace WorkflowPod.Manifest

open Json

@[simp] theorem KeyToPath.codec_isReadable : KeyToPath.codec.IsReadable :=
  Codec.isReadable_object (by simp)

@[simp] theorem ConfigMapSource.codec_isReadable : ConfigMapSource.codec.IsReadable :=
  Codec.isReadable_object (by simp)

@[simp] theorem EmptyDirSource.codec_isReadable : EmptyDirSource.codec.IsReadable :=
  Codec.isReadable_object (by simp)

@[simp] theorem HostPathSource.codec_isReadable : HostPathSource.codec.IsReadable :=
  Codec.isReadable_object (by simp)

@[simp] theorem NfsSource.codec_isReadable : NfsSource.codec.IsReadable :=
  Codec.isReadable_object (by simp)

@[simp] theorem ClaimSource.codec_isReadable : ClaimSource.codec.IsReadable :=
  Codec.isReadable_object (by simp)

@[simp] theorem SecretSource.codec_isReadable : SecretSource.codec.IsReadable :=
  Codec.isReadable_object (by simp)

@[simp] theorem Volume.codec_isReadable : Volume.codec.IsReadable :=
  Codec.isReadable_object (by simp)

@[simp] theorem VolumeMount.codec_isReadable : VolumeMount.codec.IsReadable :=
  Codec.isReadable_object (by simp)

@[simp] theorem KeySelector.codec_isReadable : KeySelector.codec.IsReadable :=
  Codec.isReadable_object (by simp)

@[simp] theorem FieldSelector.codec_isReadable : FieldSelector.codec.IsReadable :=
  Codec.isReadable_object (by simp)

@[simp] theorem ResourceSelector.codec_isReadable : ResourceSelector.codec.IsReadable :=
  Codec.isReadable_object (by simp)

@[simp] theorem ValueSource.codec_isReadable : ValueSource.codec.IsReadable :=
  Codec.isReadable_object (by simp)

@[simp] theorem Variable.codec_isReadable : Variable.codec.IsReadable :=
  Codec.isReadable_object (by simp)

@[simp] theorem Requirements.codec_isReadable : Requirements.codec.IsReadable :=
  Codec.isReadable_object (by simp)

@[simp] theorem ExecAction.codec_isReadable : ExecAction.codec.IsReadable :=
  Codec.isReadable_object (by simp)

@[simp] theorem LifecycleHandler.codec_isReadable : LifecycleHandler.codec.IsReadable :=
  Codec.isReadable_object (by simp)

@[simp] theorem Lifecycle.codec_isReadable : Lifecycle.codec.IsReadable :=
  Codec.isReadable_object (by simp)

@[simp] theorem SecurityContext.codec_isReadable : SecurityContext.codec.IsReadable :=
  Codec.isReadable_object (by simp)

@[simp] theorem Container.codec_isReadable : Container.codec.IsReadable :=
  Codec.isReadable_object (by simp)

@[simp] theorem OwnerReference.codec_isReadable : OwnerReference.codec.IsReadable :=
  Codec.isReadable_object (by simp)

@[simp] theorem Metadata.codec_isReadable : Metadata.codec.IsReadable :=
  Codec.isReadable_object (by simp)

@[simp] theorem PodSecurityContext.codec_isReadable : PodSecurityContext.codec.IsReadable :=
  Codec.isReadable_object (by simp)

@[simp] theorem LocalReference.codec_isReadable : LocalReference.codec.IsReadable :=
  Codec.isReadable_object (by simp)

@[simp] theorem PodSpec.codec_isReadable : PodSpec.codec.IsReadable :=
  Codec.isReadable_object (by simp)

theorem ObjectType.tag_isReadable (t : ObjectType) {α τ : Type} {members : Members τ}
    {toTuple : α → τ} {ofTuple : τ → α} (h : members.IsReadable) :
    (t.tag (.object members toTuple ofTuple)).IsReadable := fun a =>
  .obj <| List.forall_mem_cons.2 ⟨.str _, List.forall_mem_cons.2
    ⟨.str _, members.readable_of_mem_write h (toTuple a)⟩⟩

theorem Pod.codec_isReadable : Pod.codec.IsReadable :=
  ObjectType.tag_isReadable _ (by simp)

end WorkflowPod.Manifest
