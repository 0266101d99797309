import WorkflowPod.Log.Record
import WorkflowPod.Text.Blank
import WorkflowPod.Text.Digits
import WorkflowPod.Text.Search

/-!
Filters of records. A filter is a list of directives with commas between them, such as
`info,flowpod=debug`; of the directives about a record the most special one decides.
-/
namespace WorkflowPod.Log

open Text

/-- The most verbose level let through; none lets nothing through. -/
abbrev Threshold := Option Level

def admits (threshold : Threshold) (level : Level) : Bool :=
  threshold.any fun most => level.rank ≤ most.rank

/-- A threshold by its rank or its name, in small or capital letters. -/
def readThreshold? (s : List Char) : Option Threshold :=
  let digits := if s.head? = some '+' then s.drop 1 else s
  match readNat? 10 digits with
  | some 0 => some none
  | some n => (Level.all.find? (·.rank = n)).map some
  | none =>
    let name := s.map Char.toUpper
    if name = "OFF".toList then some none
    else (Level.all.find? (·.name.toList = name)).map some

/-- A field that records must have; `valued` if its value matters as well. -/
structure FieldCondition where
  name : String
  valued : Bool
  deriving DecidableEq, Repr

/-- A threshold for the records whose target starts with `target`, in a span, with a field. -/
structure Directive where
  threshold : Threshold
  target : Option String := none
  span : Option String := none
  field : Option FieldCondition := none
  deriving DecidableEq, Repr

namespace Directive

/-- Whether a directive may start with `c`: it does so with a letter, a digit, or one of a few
marks. No character beyond ASCII is ruled out. -/
def isStart (c : Char) : Bool :=
  c.isAlphanum || 0x80 ≤ c.toNat || "-:_[".toList.contains c

/-- What follows the target or span of a directive: nothing, or a level, or an equals sign alone for
all records. A directive with blanks around it has no level. -/
def readEnd? (padded : Bool) : List Char → Option Threshold
  | [] => some (some .trace)
  | '=' :: level =>
    if padded then none else if level.isEmpty then some (some .trace) else readThreshold? level
  | _ => none

/-- The field of a directive, with its value after an equals sign. -/
def readField? (s : List Char) : Option FieldCondition :=
  if s.isEmpty then none
  else
    match cutAt? (· == '=') s with
    | some (name, _) => some ⟨String.ofList name, true⟩
    | none => some ⟨String.ofList s, false⟩

/-- A span in brackets, with a field in braces, from after the first bracket. -/
def readSpan? (padded : Bool) (target : Option String) (s : List Char) : Option Directive := do
  match s.span fun c => c ≠ ']' && c ≠ '\x7b' with
  | (span, ']' :: rest) =>
    return { threshold := ← readEnd? padded rest, target, span := some (String.ofList span) }
  | (span, _ :: rest) =>
    let (field, rest) ← cutAt? (· == '\x7d') rest
    let field ← readField? field
    let rest ← afterLead? [']'] rest
    let span := if span.isEmpty then none else some (String.ofList span)
    return { threshold := ← readEnd? padded rest, target, span, field := some field }
  | _ => none

/-- A directive. One without marks is a level or else a target, with the blanks around it. -/
def parse? (s : List Char) : Option Directive := do
  let body := trim s
  let padded := body != s
  guard (body.head?.any isStart)
  match body.span fun c => c ≠ '=' && c ≠ '[' with
  | (_, []) =>
    match readThreshold? s with
    | some threshold => return { threshold }
    | none => return { threshold := some .trace, target := some (String.ofList s) }
  | ([], _ :: span) => readSpan? padded none span
  | (target, '=' :: level) =>
    return { threshold := ← readEnd? padded ('=' :: level), target := some (String.ofList target) }
  | (target, _ :: span) => readSpan? padded (some (String.ofList target)) span

/-- Whether a directive is about a record outside of all spans. One that asks for a span or for the
value of a field never is. -/
def concerns (d : Directive) (r : Record) : Bool :=
  d.span.isNone && d.target.all (fun target => startsWith target.toList r.target.toList) &&
    d.field.all fun field => !field.valued && r.fields.any fun f => f.1 = field.name

/-- Whether one directive about a record is at most as special as another: a longer target is more
special, then a field. -/
def le (d e : Directive) : Bool :=
  let length (d : Directive) := (d.target.map fun target => target.length + 1).getD 0
  length d < length e || length d = length e &&
    (d.field.isNone || e.field.any fun f => d.field.all fun g => g.name ≤ f.name)

end Directive

/-- Directives in the order given. -/
structure Filter where
  directives : List Directive
  deriving DecidableEq, Repr

namespace Filter

/-- A filter; empty directives do not count. None of the text is used if one directive is wrong. -/
def parse? (text : String) : Option Filter :=
  (((text.toList.splitOn ',').filter (!·.isEmpty)).mapM Directive.parse?).map Filter.mk

/-- The filter for when none is given. -/
def standard : Filter where
  directives :=
    [{ threshold := some .info },
      { threshold := some .debug, target := some "flowpod" },
      { threshold := some .info, target := some "kube" },
      { threshold := some .warn, target := some "tower" },
      { threshold := some .warn, target := some "hyper" }]

/-- The filter for the text of a variable. Without directives only errors are let through. -/
def ofText? (text : Option String) : Filter :=
  match text.bind parse? with
  | none => standard
  | some ⟨[]⟩ => ⟨[{ threshold := some .error }]⟩
  | some filter => filter

/-- The directive that decides about a record: of the most special ones the last. -/
def deciding? (f : Filter) (r : Record) : Option Directive :=
  (f.directives.filter (·.concerns r)).foldl
    (fun best d => if best.all fun b => b.le d then some d else best) none

def enables (f : Filter) (r : Record) : Bool :=
  (f.deciding? r).any fun d => admits d.threshold r.level

end Filter

end WorkflowPod.Log
