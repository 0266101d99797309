import WorkflowPod.Manifest.Object
import WorkflowPod.Proofs.Json.Codec

/-!
The objects of a cluster are read back from what is written for them. Of metadata this is said only
for those without instants, which is all that plans have.
-/
namespace WorkflowPod.Manifest

open Json

@[simp] theorem KeyToPath.codec_restores (k : KeyToPath) : KeyToPath.codec.Restores k :=
  Codec.restores_object (by decide) k rfl (by simp)

@[simp] theorem ConfigMapSource.codec_restores (s : ConfigMapSource) :
    ConfigMapSource.codec.Restores s :=
  Codec.restores_object (by decide) s rfl (by simp)

@[simp] theorem EmptyDirSource.codec_restores (s : EmptyDirSource) :
    EmptyDirSource.codec.Restores s :=
  Codec.restores_object (by decide) s rfl (by simp)

@[simp] theorem HostPathSource.codec_restores (s : HostPathSource) :
    HostPathSource.codec.Restores s :=
  Codec.restores_object (by decide) s rfl (by simp)

@[simp] theorem NfsSource.codec_restores (s : NfsSource) : NfsSource.codec.Restores s :=
  Codec.restores_object (by decide) s rfl (by simp)

@[simp] theorem ClaimSource.codec_restores (s : ClaimSource) : ClaimSource.codec.Restores s :=
  Codec.restores_object (by decide) s rfl (by simp)

@[simp] theorem SecretSource.codec_restores (s : SecretSource) : SecretSource.codec.Restores s :=
  Codec.restores_object (by decide) s rfl (by simp)

@[simp] theorem Volume.codec_restores (v : Volume) : Volume.codec.Restores v :=
  Codec.restores_object (by decide) v rfl (by simp)

@[simp] theorem VolumeMount.codec_restores (m : VolumeMount) : VolumeMount.codec.Restores m :=
  Codec.restores_object (by decide) m rfl (by simp)

@[simp] theorem KeySelector.codec_restores (s : KeySelector) : KeySelector.codec.Restores s :=
  Codec.restores_object (by decide) s rfl (by simp)

@[simp] theorem FieldSelector.codec_restores (s : FieldSelector) :
    FieldSelector.codec.Restores s :=
  Codec.restores_object (by decide) s rfl (by simp)

@[simp] theorem ResourceSelector.codec_restores (s : ResourceSelector) :
    ResourceSelector.codec.Restores s :=
  Codec.restores_object (by decide) s rfl (by simp)

@[simp] theorem ValueSource.codec_restores (s : ValueSource) : ValueSource.codec.Restores s :=
  Codec.restores_object (by decide) s rfl (by simp)

@[simp] theorem Variable.codec_restores (v : Variable) : Variable.codec.Restores v :=
  Codec.restores_object (by decide) v rfl (by simp)

@[simp] theorem Requirements.codec_restores (r : Requirements) : Requirements.codec.Restores r :=
  Codec.restores_object (by decide) r rfl (by simp)

@[simp] theorem ExecAction.codec_restores (a : ExecAction) : ExecAction.codec.Restores a :=
  Codec.restores_object (by decide) a rfl (by simp)

@[simp] theorem LifecycleHandler.codec_restores (h : LifecycleHandler) :
    LifecycleHandler.codec.Restores h :=
  Codec.restores_object (by decide) h rfl (by simp)

@[simp] theorem Lifecycle.codec_restores (l : Lifecycle) : Lifecycle.codec.Restores l :=
  Codec.restores_object (by decide) l rfl (by simp)

@[simp] theorem SecurityContext.codec_restores (c : SecurityContext) :
    SecurityContext.codec.Restores c :=
  Codec.restores_object (by decide) c rfl (by simp)

@[simp] theorem Container.codec_restores (c : Container) : Container.codec.Restores c :=
  Codec.restores_object (by decide) c rfl (by simp)

@[simp] theorem OwnerReference.codec_restores (r : OwnerReference) :
    OwnerReference.codec.Restores r :=
  Codec.restores_object (by decide) r rfl (by simp)

theorem Metadata.codec_restores {m : Metadata} (hcreation : m.creationTimestamp = none)
    (hdeletion : m.deletionTimestamp = none) : Metadata.codec.Restores m :=
  Codec.restores_object (by decide) m rfl (by simp [hcreation, hdeletion])

@[simp] theorem PodSecurityContext.codec_restores (c : PodSecurityContext) :
    PodSecurityContext.codec.Restores c :=
  Codec.restores_object (by decide) c rfl (by simp)

@[simp] theorem LocalReference.codec_restores (r : LocalReference) :
    LocalReference.codec.Restores r :=
  Codec.restores_object (by decide) r rfl (by simp)

@[simp] theorem PodSpec.codec_restores (s : PodSpec) : PodSpec.codec.Restores s :=
  Codec.restores_object (by decide) s rfl (by simp)

/-- A tagged record is read back if its members leave the keys of the tag alone. -/
theorem ObjectType.tag_restores (t : ObjectType) {α τ : Type} {members : Members τ}
    {toTuple : α → τ} {ofTuple : τ → α} (hkeys : members.keys.Nodup)
    (hversion : "apiVersion" ∉ members.keys) (hkind : "kind" ∉ members.keys) (a : α)
    (hinv : ofTuple (toTuple a) = a) (h : members.Restores (toTuple a)) :
    (t.tag (.object members toTuple ofTuple)).Restores a := by
  have hread := members.readObject_append_write hkeys _ h .lastCounts
    [("apiVersion", .str t.apiVersion), ("kind", .str t.kind)] (by simp [hversion, hkind])
  have htag : (("apiVersion", .str t.apiVersion) :: ("kind", .str t.kind) ::
      members.write (toTuple a)).all (fun e =>
        (e.1 != "apiVersion" || e.2.text? == some t.apiVersion) &&
          (e.1 != "kind" || e.2.text? == some t.kind)) = true := by
    rw [List.all_cons, List.all_cons, List.all_eq_true.2]
    · simp [text?]
    · intro e he
      have hmem := members.mem_keys_of_mem_write _ e he
      have hne : e.1 ≠ "apiVersion" ∧ e.1 ≠ "kind" :=
        ⟨fun heq => hversion (heq ▸ hmem), fun heq => hkind (heq ▸ hmem)⟩
      simp [hne]
  refine ⟨?_, nofun⟩
  simp only [tag, members?, Codec.object, Option.getD_some, Option.bind_eq_bind, Option.bind_some]
  rw [htag]
  simpa [hinv] using congrArg (Option.map ofTuple) hread

theorem Pod.codec_restores {p : Pod} (h : Metadata.codec.Restores p.metadata) :
    Pod.codec.Restores p :=
  ObjectType.tag_restores _ (by decide) (by decide) (by decide) p rfl
    (by simp [h])

theorem ConfigMap.codec_restores {m : ConfigMap} (h : Metadata.codec.Restores m.metadata) :
    ConfigMap.codec.Restores m :=
  ObjectType.tag_restores _ (by decide) (by decide) (by decide) m rfl
    (by simp [h])

end WorkflowPod.Manifest
