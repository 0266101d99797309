/-! JSON values, and the parts of one. -/
namespace WorkflowPod

/-- A JSON value. The members of an object keep their order, and a key may occur again. -/
inductive Json where
  | null
  | bool (b : Bool)
  /-- An integer that fits sixty-four bits, with a sign or without. -/
  | int (n : Int)
  /-- Any other number, by its numeral. -/
  | decimal (numeral : String)
  | str (text : String)
  | arr (elements : List Json)
  | obj (members : List (String × Json))
  /-- A string, or an object with a key, that stands for no Unicode text: it has half of a
  surrogate pair. It may be skipped but not used. -/
  | unreadable
  deriving Repr, Inhabited

namespace Json

/-- The value under `key` in an object; of several the last. -/
def member? (key : String) : Json → Option Json
  | obj members => (members.reverse.find? (·.1 == key)).map Prod.snd
  | _ => none

def text? : Json → Option String
  | str text => some text
  | _ => none

def int? : Json → Option Int
  | int n => some n
  | _ => none

/-- The value of a truth value. -/
def bool? : Json → Option Bool
  | bool b => some b
  | _ => none

def elements? : Json → Option (List Json)
  | arr elements => some elements
  | _ => none

def members? : Json → Option (List (String × Json))
  | obj members => some members
  | _ => none

def texts (texts : List String) : Json := arr (texts.map str)

def ofText? : Option String → Json
  | some text => str text
  | none => null

end Json

end WorkflowPod
