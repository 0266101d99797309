import WorkflowPod.Json.Basic
import WorkflowPod.Dict

/-!
Pairs of functions that write values as JSON and read them back. A record is described by its
members, each with its key, so that its objects are written and read from one description.
-/
namespace WorkflowPod.Json

/-- How the values of a type are written, and which JSON values are read as one. -/
structure Codec (α : Type) where
  encode : α → Json
  decode? : Json → Option α

namespace Codec

def text : Codec String := ⟨.str, text?⟩

def bool : Codec Bool := ⟨.bool, bool?⟩

/-- Integers of sixty-four bits. -/
def int64 : Codec Int64 where
  encode n := .int n.toInt
  decode? value := value.int?.bind fun n =>
    if (Int64.ofInt n).toInt = n then some (Int64.ofInt n) else none

/-- Integers of thirty-two bits. -/
def int32 : Codec Int32 where
  encode n := .int n.toInt
  decode? value := value.int?.bind fun n =>
    if (Int32.ofInt n).toInt = n then some (Int32.ofInt n) else none

def list {α : Type} (c : Codec α) : Codec (List α) where
  encode values := .arr (values.map c.encode)
  decode? value := value.elements?.bind fun elements => elements.mapM c.decode?

/-- Objects whose keys are free; of several members with one key the last counts. -/
def dict {α : Type} (c : Codec α) : Codec (Dict String α) where
  encode m := .obj (m.entries.map fun entry => (entry.1, c.encode entry.2))
  decode? value := value.members?.bind fun members =>
    (members.mapM fun member => (c.decode? member.2).map (member.1, ·)).map Dict.ofList

end Codec

structure Member (α : Type) where
  key : String
  /-- What is written, or nothing to leave the member out. -/
  write : α → Option Json
  read : Json → Option α
  /-- What a record without the member has, if it may lack it. -/
  absent : Option α

namespace Member

variable {α : Type}

/-- A value or none: none is left out, and null reads as none. -/
def optional (key : String) (c : Codec α) : Member (Option α) where
  key := key
  write value := value.map c.encode
  read
    | .null => some none
    | value => (c.decode? value).map some
  absent := some none

/-- A value that is always written; `blank` stands for a missing one, but null is not read. -/
def withDefault (key : String) (c : Codec α) (blank : α) : Member α where
  key := key
  write value := some (c.encode value)
  read := c.decode?
  absent := some blank

/-- A value that is always written; `blank` stands for a missing one and for null. -/
def orBlank (key : String) (c : Codec α) (blank : α) : Member α where
  key := key
  write value := some (c.encode value)
  read
    | .null => some blank
    | value => c.decode? value
  absent := some blank

def required (key : String) (c : Codec α) : Member α where
  key := key
  write value := some (c.encode value)
  read := c.decode?
  absent := none

def unlessEmpty (key : String) (c : Codec α) : Member (List α) where
  key := key
  write values := if values.isEmpty then none else some (c.list.encode values)
  read := c.list.decode?
  absent := some []

/-- A map that is left out when it is empty. -/
def unlessEmptyDict (key : String) (c : Codec α) : Member (Dict String α) where
  key := key
  write m := if m.isEmpty then none else some (c.dict.encode m)
  read := c.dict.decode?
  absent := some {}

end Member

/-- The members of a record in their order; the index is the tuple of their values. -/
inductive Members : Type → Type 1 where
  | nil : Members Unit
  | cons {α β : Type} (first : Member α) (rest : Members β) : Members (α × β)

/-- What a member may do more than once in an object. -/
inductive Repetition where
  /-- A known key occurs at most once. -/
  | refused
  /-- Every occurrence must be readable, and the last counts. -/
  | lastCounts

namespace Members

def write : {τ : Type} → Members τ → τ → List (String × Json)
  | _, nil, () => []
  | _, cons first rest, (value, values) =>
    match first.write value with
    | some json => (first.key, json) :: rest.write values
    | none => rest.write values

def readMember {α : Type} (repetition : Repetition) (m : Member α)
    (members : List (String × Json)) : Option α :=
  match members.filter (·.1 == m.key), repetition with
  | [], _ => m.absent
  | [(_, value)], _ => m.read value
  | _, .refused => none
  | found, .lastCounts => do
    let values ← found.mapM fun (_, value) => m.read value
    values.getLast?

def readObject (repetition : Repetition) :
    {τ : Type} → Members τ → List (String × Json) → Option τ
  | _, nil, _ => some ()
  | _, cons first rest, members => do
    let value ← readMember repetition first members
    let values ← rest.readObject repetition members
    return (value, values)

/-- The tuple of values an array gives: the members by position, those missing at its end absent. -/
def readArray : {τ : Type} → Members τ → List Json → Option τ
  | _, nil, [] => some ()
  | _, nil, _ :: _ => none
  | _, cons first rest, [] => do
    let value ← first.absent
    let values ← rest.readArray []
    return (value, values)
  | _, cons first rest, element :: elements => do
    let value ← first.read element
    let values ← rest.readArray elements
    return (value, values)


end Members

namespace Codec

/-- A record that is written as an object, and read from an object or, by position, an array. -/
def record {α τ : Type} (members : Members τ) (toTuple : α → τ) (ofTuple : τ → α) : Codec α where
  encode value := .obj (members.write (toTuple value))
  decode?
    | .obj entries => (members.readObject .refused entries).map ofTuple
    | .arr elements => (members.readArray elements).map ofTuple
    | _ => none

/-- A record that is written as an object and read from objects only. -/
def object {α τ : Type} (members : Members τ) (toTuple : α → τ) (ofTuple : τ → α) : Codec α where
  encode value := .obj (members.write (toTuple value))
  decode?
    | .obj entries => (members.readObject .lastCounts entries).map ofTuple
    | _ => none

end Codec

end WorkflowPod.Json
