/-!
File references `source[:target]`. A backslash before a colon or a backslash makes it literal; the
last colon that is not after a backslash and has text on both sides separates the halves.
-/
namespace WorkflowPod.Path

/-- A file and the name it is given where it is delivered. -/
structure Reference where
  source : String
  target : Option String
  deriving DecidableEq, Repr

namespace Reference

def unescapeColons : List Char → List Char
  | '\\' :: ':' :: rest => ':' :: unescapeColons rest
  | c :: rest => c :: unescapeColons rest
  | [] => []

/-- Backslashes for their escapes, from left to right. -/
def unescapeBackslashes : List Char → List Char
  | '\\' :: '\\' :: rest => '\\' :: unescapeBackslashes rest
  | c :: rest => c :: unescapeBackslashes rest
  | [] => []

/-- The text without escapes: colons first, then backslashes. -/
def unescapeChars (s : List Char) : List Char :=
  unescapeBackslashes (unescapeColons s)

def cut? : List Char → Option (List Char × List Char)
  | [] => none
  | c :: rest =>
    match cut? rest with
    | some (source, target) => some (c :: source, target)
    | none =>
      match rest with
      | ':' :: d :: after => if c = '\\' then none else some ([c], d :: after)
      | _ => none

def unescape (text : String) : String :=
  String.ofList (unescapeChars text.toList)

def parse (text : String) : Reference :=
  match cut? text.toList with
  | some (source, target) =>
    ⟨String.ofList (unescapeChars source), some (String.ofList (unescapeChars target))⟩
  | none => ⟨unescape text, none⟩

end Reference

end WorkflowPod.Path
