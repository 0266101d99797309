import WorkflowPod.Proofs.Manifest.Readable
import WorkflowPod.Proofs.Plan

/-!
The config map of a plan holds the plan's pod: its one entry, read as YAML, is the pod again, so no
two pods have the same text.
-/
namespace WorkflowPod.Plan

open Json Manifest

/-- The pod a text stands for as YAML. -/
def podOfConfig? (text : String) : Option Pod := (Yaml.parse? text).bind Pod.codec.decode?

/-- The text of a pod is YAML for what the pod is in JSON. -/
theorem parse?_config (plan : Plan) :
    Yaml.parse? plan.config = some (Pod.codec.encode plan.pod) := by
  have hreadable := Pod.codec_isReadable plan.pod
  exact Yaml.parse?_render (List.cons_ne_nil _ _) hreadable

theorem podOfConfig?_config (plan : Plan) : podOfConfig? plan.config = some plan.pod := by
  rw [podOfConfig?, parse?_config, Option.bind_some, plan.pod_restores.decode]

theorem entries_configMap (plan : Plan) :
    plan.configMap.data.map (·.entries) = some [(configFileKey, plan.config)] := rfl

/-- The config map of a plan has one entry, which is read back as the pod of the plan. So plans have
the same text only if they have the same pod. -/
theorem config_faithful (plan : Plan) :
    (∃ text, plan.configMap.data.map (·.entries) = some [(configFileKey, text)] ∧
      podOfConfig? text = some plan.pod) ∧
    ∀ plan' : Plan, plan'.config = plan.config ↔ plan'.pod = plan.pod := by
  refine ⟨⟨plan.config, plan.entries_configMap, plan.podOfConfig?_config⟩, fun plan' => ⟨?_, ?_⟩⟩
  · intro htext
    have hread := plan'.podOfConfig?_config
    rw [htext, plan.podOfConfig?_config] at hread
    exact (Option.some.inj hread).symm
  · intro hpod
    rw [config, config, hpod]

end WorkflowPod.Plan
