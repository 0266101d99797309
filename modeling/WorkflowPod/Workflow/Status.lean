import WorkflowPod.Json.Codec

/-! The progress of a workflow, as its monitor writes it. -/
namespace WorkflowPod.Workflow

open Json

structure Status where
  cost : Option String := none
  currentStage : Option String := none
  exitStatus : Option String := none
  experimentState : Option String := none
  stageProgress : Option String := none
  stageState : Option String := none
  errorDescription : Option String := none
  stages : List String := []
  totalProgress : Option String := none
  updated : Option String := none
  /-- Files by component and by name. -/
  outputFiles : Dict String (Dict String String) := {}
  freeForm : Option String := none
  deriving DecidableEq

def Status.codec : Codec Status :=
  .record
    (.cons (.optional "cost" .text) <| .cons (.optional "currentstage" .text) <|
      .cons (.optional "exitstatus" .text) <| .cons (.optional "experimentstate" .text) <|
      .cons (.optional "stageprogress" .text) <| .cons (.optional "stagestate" .text) <|
      .cons (.optional "errordescription" .text) <| .cons (.unlessEmpty "stages" .text) <|
      .cons (.optional "totalprogress" .text) <| .cons (.optional "updated" .text) <|
      .cons (.unlessEmptyDict "outputfiles" Codec.text.dict) <| .cons (.optional "meta" .text) .nil)
    (fun s => (s.cost, s.currentStage, s.exitStatus, s.experimentState, s.stageProgress,
      s.stageState, s.errorDescription, s.stages, s.totalProgress, s.updated, s.outputFiles,
      s.freeForm, ()))
    (fun (cost, currentStage, exitStatus, experimentState, stageProgress, stageState,
      errorDescription, stages, totalProgress, updated, outputFiles, freeForm, ()) =>
        { cost, currentStage, exitStatus, experimentState, stageProgress, stageState,
          errorDescription, stages, totalProgress, updated, outputFiles, freeForm })

end WorkflowPod.Workflow
