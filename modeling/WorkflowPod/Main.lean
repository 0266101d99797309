import Std.Time.DateTime.Timestamp
import WorkflowPod.CommandLine.Basic
import WorkflowPod.Json.Printer
import WorkflowPod.Time.Instant

/-! The program. -/
namespace WorkflowPod.CommandLine

/-- The environment variables that matter, as far as they are set. -/
def readVariables : IO Operator.Variables := do
  let mut vars : Operator.Variables := {}
  for name in variableNames do
    if let some value ← IO.getEnv name then
      vars := vars.insert name value
  return vars

def write (output : IO.FS.Stream) : Output → IO Unit
  | .line text => output.putStrLn text
  | .record r => do
    let now := (← Std.Time.Timestamp.now).toNanosecondsSinceUnixEpoch.val
    let time : Time.Instant := ⟨now / 1000000000, false⟩
    let stamp := time.renderFine (now / 1000 % 1000000).toNat
    output.putStrLn (Json.obj (("timestamp", .str stamp) :: r.encode)).render

end WorkflowPod.CommandLine

open WorkflowPod.CommandLine

def main (args : List String) : IO UInt32 := do
  let run := run args (← readVariables)
  run.output.forM (write (← IO.getStdout))
  run.errors.forM IO.eprintln
  return run.code.toUInt32
