import WorkflowPod.Json.Basic
import WorkflowPod.Yaml.Scalar

/-!
Block style YAML for JSON values. Members and items stand on lines of their own, members indented by
two more than what holds them and items under a key by nothing more.
-/
namespace WorkflowPod.Yaml

/-- Where a value stands. -/
inductive Place where
  /-- After its key and colon. -/
  | underKey
  /-- After the hyphen of an item, or the mark of a key or value on a line of its own. -/
  | afterMark
  deriving DecidableEq, Repr

/-- Where the value of a key stands. -/
def Place.ofKey (key : List Char) : Place := if isSimpleKey key then .underKey else .afterMark

/-- A key up to its colon. One that is not simple stands after a question mark, and its colon on the
next line. -/
def keyText (width : Nat) (key : List Char) : List Char :=
  match Place.ofKey key with
  | .underKey => scalar (width + 2) key ++ [':']
  | .afterMark => '?' :: ' ' :: (scalar (width + 2) key ++ scalarEnd key ++ margin width ++ [':'])

mutual

/-- A value up to the end of its last line; `width` is the indentation of the key or mark before
it. -/
def value (place : Place) (width : Nat) : Json → List Char
  | .arr items =>
    if items.isEmpty then " []\n".toList
    else
      match place with
      | .underKey => '\n' :: sequence false width items
      | .afterMark => ' ' :: sequence true (width + 2) items
  | .obj members =>
    if members.isEmpty then " \x7b\x7d\n".toList
    else
      match place with
      | .underKey => '\n' :: mapping false (width + 2) members
      | .afterMark => ' ' :: mapping true (width + 2) members
  | .str text => ' ' :: (scalar (width + 2) text.toList ++ scalarEnd text.toList)
  | .null | .unreadable => " null\n".toList
  | .bool b => (if b then " true\n" else " false\n").toList
  | .int n => ' ' :: ((toString n).toList ++ ['\n'])
  | .decimal numeral => ' ' :: (numeral.toList ++ ['\n'])

/-- Items, each after a hyphen; `inline` if the first continues a line. -/
def sequence (inline : Bool) (width : Nat) : List Json → List Char
  | [] => []
  | first :: rest =>
    (if inline then [] else margin width) ++
      '-' :: (value .afterMark width first ++ sequence false width rest)

/-- Members, each on lines of its own; `inline` if the first continues a line. -/
def mapping (inline : Bool) (width : Nat) : List (String × Json) → List Char
  | [] => []
  | (key, first) :: rest =>
    (if inline then [] else margin width) ++ keyText width key.toList ++
      (value (.ofKey key.toList) width first ++ mapping false width rest)

end

def document : Json → List Char
  | .obj (first :: rest) => mapping false 0 (first :: rest)
  | .arr (first :: rest) => sequence false 0 (first :: rest)
  | json => (value .afterMark 0 json).drop 1

def render (json : Json) : String := String.ofList (document json)

end WorkflowPod.Yaml
