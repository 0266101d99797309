/-! Finding, cutting and replacing parts of a text. -/
namespace WorkflowPod.Text

def afterLead? : (lead s : List Char) → Option (List Char)
  | [], s => some s
  | _ :: _, [] => none
  | c :: lead, d :: s => if c = d then afterLead? lead s else none

def startsWith (lead s : List Char) : Bool :=
  (afterLead? lead s).isSome

def cutAt? (p : Char → Bool) : List Char → Option (List Char × List Char)
  | [] => none
  | c :: s => if p c then some ([], s) else (cutAt? p s).map fun (l, r) => (c :: l, r)

def cutAtLast? (p : Char → Bool) : List Char → Option (List Char × List Char)
  | [] => none
  | c :: s =>
    match cutAtLast? p s with
    | some (l, r) => some (c :: l, r)
    | none => if p c then some ([], s) else none

end WorkflowPod.Text
