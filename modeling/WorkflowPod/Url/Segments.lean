import WorkflowPod.Url.Percent

/-! The path of a URL, with its dot segments resolved. -/
namespace WorkflowPod.Url

/-- A segment with its percent encoded points read. -/
def pointsOf : List Char → List Char
  | '%' :: '2' :: 'e' :: rest | '%' :: '2' :: 'E' :: rest => '.' :: pointsOf rest
  | c :: rest => c :: pointsOf rest
  | [] => []

/-- What a segment does to the path. -/
inductive Motion where
  | stay
  | up
  | enter

def motion (segment : List Char) : Motion :=
  match pointsOf segment with
  | ['.'] => .stay
  | ['.', '.'] => .up
  | _ => .enter

/-- Whether a segment names a drive, which going up does not leave. -/
def isDrive : List Char → Bool
  | [letter, mark] => letter.isAlpha && (mark == ':' || mark == '|')
  | letter :: mark :: after :: _ => letter.isAlpha && (mark == ':' || mark == '|') && after == '\\'
  | _ => false

/-- The segments entered, last first, without the last unless it names a drive. -/
def leave : List (List Char) → List (List Char)
  | [] => []
  | last :: rest => if isDrive last then last :: rest else rest

def pathOf (entered : List (List Char)) : List (List Char) → List Char
  | [] => []
  | [last] =>
    let ending (entered : List (List Char)) (last : List Char) :=
      entered.reverse.flatMap (· ++ ['/']) ++ last
    match motion last with
    | .stay => ending entered []
    | .up => ending (leave entered) []
    | .enter => ending entered last
  | segment :: rest =>
    match motion segment with
    | .stay => pathOf entered rest
    | .up => pathOf (leave entered) rest
    | .enter => pathOf (segment :: entered) rest

/-- Characters of a path that are percent encoded besides those that always are. -/
def pathEscapes : List Char := " \"<>`#?\x7b\x7d".toList

/-- The path in normal form, without its leading slash. With `backslashes`, they are slashes. -/
def normalPath (backslashes : Bool) (s : List Char) : List Char :=
  let slashed := if backslashes then s.map fun c => if c == '\\' then '/' else c else s
  let path := match slashed with
    | '/' :: rest => rest
    | rest => rest
  pathOf [] ((path.splitOn '/').map (percentEncode pathEscapes))

end WorkflowPod.Url
