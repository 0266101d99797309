import WorkflowPod.Yaml.Numeral

/-!
How a text is written as a YAML scalar: plain where it reads back as the text, else quoted or, with
line ends in it, as a literal block.
-/
namespace WorkflowPod.Yaml

open Text

/-- The ways to write a scalar. -/
inductive Style where
  | plain
  | singleQuoted
  | doubleQuoted
  | literal
  deriving DecidableEq, Repr

def isBreak (c : Char) : Bool :=
  c == '\n' || c == '\r' || c == '\u0085' || c == '\u2028' || c == '\u2029'

/-- Whether a character is blank, ends a line, or is null. -/
def isBlank (c : Char) : Bool := c == ' ' || c == '\t' || c == '\x00' || isBreak c

/-- Whether a character may be written as it is. -/
def isPrintable (c : Char) : Bool :=
  let n := c.toNat
  n == 0xA || (0x20 ≤ n && n ≤ 0x7E) || (0xA0 ≤ n && n ≤ 0xD7FF) ||
    (0xE000 ≤ n && n ≤ 0xFFFD && n != 0xFEFF) || 0x10000 ≤ n

def isNull (s : List Char) : Bool :=
  s.isEmpty || ["null", "Null", "NULL", "~"].any (·.toList == s)

/-- Whether a plain scalar is read as a truth value. -/
def isTruth (s : List Char) : Bool :=
  ["true", "True", "TRUE", "false", "False", "FALSE"].any (·.toList == s)

/-- Whether a plain scalar would be read as something else than a text, or looks like a number. -/
def isMistakable (s : List Char) : Bool :=
  isNull s || isTruth s || isNumber s || isZeroLed s

/-- Whether two neighbours satisfy `p` and `q`. -/
def hasNeighbours (p q : Char → Bool) (s : List Char) : Bool :=
  (s.zip s.tail).any fun (a, b) => p a && q b

def endsWord (rest : List Char) : Bool := rest.head?.all isBlank

def startsIndicator : List Char → Bool
  | [] => false
  | c :: rest =>
    "#,[]\x7b\x7d&*!|>\x27\"%@`".toList.contains c ||
      (((c == '?' || c == ':') || c == '-') && endsWord rest)

/-- Whether a later character would be read as an indicator: a colon before a blank, or a number
sign after one. -/
def hasIndicator : List Char → Bool
  | [] => false
  | c :: rest =>
    (match rest with
      | ':' :: after => endsWord after
      | '#' :: _ => isBlank c
      | _ => false) || hasIndicator rest

/-- Whether a text starts like the mark between two documents. -/
def startsDocument (s : List Char) : Bool :=
  startsWith ['-', '-', '-'] s || startsWith ['.', '.', '.'] s

/-- Whether a text has characters, or blanks before a line end, that only escapes preserve. -/
def needsEscapes (s : List Char) : Bool :=
  s.any (!isPrintable ·) || hasNeighbours (· == ' ') isBreak s

/-- Whether a text can be written plain. -/
def allowsPlain (s : List Char) : Bool :=
  !needsEscapes s && !s.any isBreak && s.head? != some ' ' && s.getLast? != some ' ' &&
    !startsDocument s && !startsIndicator s && !hasIndicator s

/-- Whether a text can be written in single quotes. -/
def allowsSingleQuotes (s : List Char) : Bool :=
  !needsEscapes s && !hasNeighbours isBreak (· == ' ') s

/-- Whether a text can be written as a literal block. -/
def allowsLiteral (s : List Char) : Bool :=
  !needsEscapes s && s.getLast? != some ' '

def style (s : List Char) : Style :=
  if s.contains '\n' then
    if allowsLiteral s then .literal else .doubleQuoted
  else if !isMistakable s && allowsPlain s then .plain
  else if allowsSingleQuotes s then .singleQuoted
  else .doubleQuoted

/-- Whether a text may stand before its colon as a key: on one line and not too long. -/
def isSimpleKey (s : List Char) : Bool :=
  !s.any isBreak && (String.ofList s).utf8ByteSize ≤ 128

/-- Blanks at the start of a line. -/
def margin (width : Nat) : List Char := List.replicate width ' '

/-- Text in single quotes, with the lines after the first indented. -/
def singleQuotedBody (width : Nat) (afterBreak : Bool) : List Char → List Char
  | [] => if afterBreak then margin width else []
  | c :: rest =>
    if isBreak c then c :: singleQuotedBody width true rest
    else
      (if afterBreak then margin width else []) ++
        (if c == '\x27' then ['\x27', '\x27'] else [c]) ++ singleQuotedBody width false rest

/-- The escape for a character in double quotes. -/
def escaped (c : Char) : List Char :=
  '\\' :: match c with
    | '\x00' => ['0']
    | '\x07' => ['a']
    | '\x08' => ['b']
    | '\t' => ['t']
    | '\n' => ['n']
    | '\x0b' => ['v']
    | '\x0c' => ['f']
    | '\r' => ['r']
    | '\x1b' => ['e']
    | '"' => ['"']
    | '\\' => ['\\']
    | '\u0085' => ['N']
    | '\u00a0' => ['_']
    | '\u2028' => ['L']
    | '\u2029' => ['P']
    | c =>
      let n := c.toNat
      if n < 0x100 then 'x' :: hexDigits 2 n
      else if n < 0x10000 then 'u' :: hexDigits 4 n
      else 'U' :: hexDigits 8 n

def doubleQuotedBody (s : List Char) : List Char :=
  s.flatMap fun c =>
    if !isPrintable c || isBreak c || c == '"' || c == '\\' then escaped c else [c]

/-- Lines of a literal block: what starts a line is indented. -/
def literalBody (width : Nat) (afterBreak : Bool) : List Char → List Char
  | [] => []
  | c :: rest =>
    if isBreak c then c :: literalBody width true rest
    else (if afterBreak then margin width else []) ++ c :: literalBody width false rest

/-- What a literal block says of itself: its indentation if its first line does not show it, and
which line ends at its end belong to it. -/
def literalHeader (s : List Char) : List Char :=
  let indentation := if s.head?.any fun c => c == ' ' || isBreak c then ['2'] else []
  let ending := match s.reverse with
    | [] => ['-']
    | [last] => if isBreak last then ['+'] else ['-']
    | last :: previous :: _ =>
      if !isBreak last then ['-'] else if isBreak previous then ['+'] else []
  '|' :: (indentation ++ ending)

/-- A text as a scalar; lines after its first are indented by `width`. -/
def scalar (width : Nat) (s : List Char) : List Char :=
  match style s with
  | .plain => s
  | .singleQuoted => '\x27' :: (singleQuotedBody width false s ++ ['\x27'])
  | .doubleQuoted => '"' :: (doubleQuotedBody s ++ ['"'])
  | .literal => literalHeader s ++ '\n' :: literalBody width true s

/-- What ends the line of a scalar: nothing if it is a block that ends it itself. -/
def scalarEnd (s : List Char) : List Char :=
  if style s = .literal ∧ s.getLast?.any isBreak then [] else ['\n']

end WorkflowPod.Yaml
