import WorkflowPod.Json.Basic

/-! JSON text without blanks between its parts. -/
namespace WorkflowPod.Json

def escape (c : Char) : List Char :=
  match c with
  | '"' => ['\\', '"']
  | '\\' => ['\\', '\\']
  | '\x08' => ['\\', 'b']
  | '\x0c' => ['\\', 'f']
  | '\n' => ['\\', 'n']
  | '\r' => ['\\', 'r']
  | '\t' => ['\\', 't']
  | c =>
    if c.toNat < 0x20 then
      ['\\', 'u', '0', '0', (c.toNat / 16).digitChar, (c.toNat % 16).digitChar]
    else [c]

def quoted (text : String) : List Char :=
  '"' :: (text.toList.flatMap escape ++ ['"'])

mutual

def rendered : Json → List Char
  | .null => "null".toList
  | .bool b => (if b then "true" else "false").toList
  | .int n => (toString n).toList
  | .decimal numeral => numeral.toList
  | .str text => quoted text
  | .arr elements => '[' :: (renderedElements elements ++ [']'])
  | .obj members => '\x7b' :: (renderedMembers members ++ ['\x7d'])
  | .unreadable => "null".toList

def renderedElements : List Json → List Char
  | [] => []
  | [value] => rendered value
  | value :: values => rendered value ++ ',' :: renderedElements values

def renderedMembers : List (String × Json) → List Char
  | [] => []
  | [(key, value)] => quoted key ++ ':' :: rendered value
  | (key, value) :: members =>
    quoted key ++ ':' :: (rendered value ++ ',' :: renderedMembers members)

end

def render (value : Json) : String := String.ofList (rendered value)

end WorkflowPod.Json
