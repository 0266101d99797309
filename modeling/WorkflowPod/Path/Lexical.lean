import WorkflowPod.Text.Blank

/-! Slash paths as texts: cleaning, joining and the last element. No file system is consulted. -/
namespace WorkflowPod.Path

/-- One element of a path, the text between two slashes. -/
abbrev Element := List Char

def here : Element := ['.']

def up : Element := ['.', '.']

def isRooted : List Char → Bool
  | '/' :: _ => true
  | _ => false

/-- The elements kept, last first, after one more. At the root there is nothing above; elsewhere an
`..` with no name before it is kept. -/
def keep (rooted : Bool) (kept : List Element) (e : Element) : List Element :=
  if e = [] ∨ e = here then kept
  else if e = up then
    match kept with
    | last :: rest => if last = up then (if rooted then kept else up :: kept) else rest
    | [] => if rooted then [] else [up]
  else e :: kept

/-- The elements of a path that cleaning keeps, in order. -/
def keptElements (path : List Char) : List Element :=
  ((path.splitOn '/').foldl (keep (isRooted path)) []).reverse

/-- The path of elements; without any, the root or the place itself. -/
def ofElements (rooted : Bool) (elements : List Element) : List Char :=
  let joined := ['/'].intercalate elements
  if rooted then '/' :: joined else if joined.isEmpty then here else joined

/-- The shortest path with the same meaning: no empty or `.` elements and no `..` after a name. -/
def cleanChars (path : List Char) : List Char :=
  ofElements (isRooted path) (keptElements path)

/-- The nonempty parts one after the other, cleaned; nothing if there are none. -/
def joinChars (parts : List (List Char)) : List Char :=
  let parts := parts.filter (!·.isEmpty)
  if parts.isEmpty then [] else cleanChars (['/'].intercalate parts)

/-- The last element, slashes at the end apart: `.` for the empty path, `/` for slashes alone. -/
def baseNameChars (path : List Char) : List Char :=
  if path.isEmpty then here
  else
    let trimmed := Text.dropTailWhile (· == '/') path
    if trimmed.isEmpty then ['/'] else (trimmed.reverse.takeWhile (· != '/')).reverse

/-- The shortest path with the same meaning, for strings. -/
def clean (path : String) : String := String.ofList (cleanChars path.toList)

/-- The nonempty parts as one clean path, for strings. -/
def join (parts : List String) : String := String.ofList (joinChars (parts.map String.toList))

def baseName (path : String) : String := String.ofList (baseNameChars path.toList)

def isAbsolute (path : String) : Bool := isRooted path.toList

/-- The path `path` seen from `base`: unchanged if it is absolute or there is no base. -/
def resolve (base path : String) : String :=
  if base.isEmpty ∨ isAbsolute path then path else join [base, path]

end WorkflowPod.Path
