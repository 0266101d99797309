import WorkflowPod.Json.Basic
import WorkflowPod.Text.Digits

/-! Pointers into a JSON value: a slash before each step, `~1` for a slash and `~0` for a tilde. -/
namespace WorkflowPod.Json

open Text

/-- A step with its escapes read: first every `~1`, then every `~0`. -/
def unescapeStep (step : List Char) : List Char :=
  tildes (slashes step)
where
  /-- Slashes for `~1`. -/
  slashes : List Char → List Char
    | '~' :: '1' :: rest => '/' :: slashes rest
    | c :: rest => c :: slashes rest
    | [] => []
  /-- Tildes for `~0`. -/
  tildes : List Char → List Char
    | '~' :: '0' :: rest => '~' :: tildes rest
    | c :: rest => c :: tildes rest
    | [] => []

/-- The index a step into an array names: no sign and no zero before other digits. -/
def stepIndex? : List Char → Option Nat
  | ['0'] => some 0
  | '0' :: _ => none
  | step => readNat? 10 step

def down? (value : Json) (step : List Char) : Option Json :=
  match value with
  | .obj _ => value.member? (String.ofList step)
  | .arr elements => (stepIndex? step).bind fun n => elements[n]?
  | _ => none

def at? (value : Json) (pointer : String) : Option Json :=
  match pointer.toList.splitOn '/' with
  | [[]] => some value
  | [] :: steps => (steps.map unescapeStep).foldlM down? value
  | _ => none

end WorkflowPod.Json
