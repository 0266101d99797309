import WorkflowPod.Json.Basic
import WorkflowPod.Text.Blank
import WorkflowPod.Yaml.Printer

/-!
Reading block style YAML: mappings and sequences by their columns, empty flow collections, and
scalars of every style but the folded one. Comments, tags, anchors, documents with marks between
them and plain scalars of several lines are not read: no text that needs them has a reading. Every
reader returns what it read and the rest of the input.
-/
namespace WorkflowPod.Yaml

open Text

/-- How many blanks a text starts with. -/
def indentation (s : List Char) : Nat := (s.takeWhile (· == ' ')).length

def unindented (s : List Char) : List Char := s.dropWhile (· == ' ')

/-- What comes after the end of a line on which nothing but blanks is left. -/
def endLine? (s : List Char) : Option (List Char) :=
  match unindented s with
  | [] => some []
  | '\n' :: rest => some rest
  | _ => none

/-- A text without its indentation if its first line begins in a column. What looks like a mark
between documents begins nothing. -/
def lineAt? (column : Nat) (s : List Char) : Option (List Char) :=
  let line := unindented s
  if indentation s = column ∧ line.head?.any (!isBlank ·) ∧ ¬(column = 0 ∧ startsDocument line) then
    some line
  else none

/-- Whether a text starts with an indicator that stands alone. -/
def startsMark (mark : Char) : List Char → Bool
  | [] => false
  | c :: rest => c == mark && endsWord rest

/-- A scalar as it is read. Only what stands plain may be something else than a text. -/
structure Scalar where
  text : List Char
  isPlain : Bool
  deriving DecidableEq, Repr

/-- The number an unsigned numeral denotes, by its radix or else by ten. -/
def readNumeral? (s : List Char) : Option Nat :=
  ((readRadix? s).bind fun (radix, digits) => readNat? radix digits).or (readNat? 10 s)

/-- The integer a plain scalar denotes. -/
def integerOf : List Char → Int
  | '-' :: rest => -((readNumeral? rest).getD 0 : Nat)
  | s => ((readNumeral? (afterPlus s)).getD 0 : Nat)

/-- The value of a scalar: null, a truth value, a number, or else its text. -/
def Scalar.value (scalar : Scalar) : Json :=
  let text := String.ofList scalar.text
  if !scalar.isPlain then .str text
  else if isNull scalar.text then .null
  else if isTruth scalar.text then .bool (scalar.text.head?.any fun c => c == 't' || c == 'T')
  else if isInteger scalar.text then .int (integerOf scalar.text)
  else if isReal scalar.text then .decimal text
  else .str text

/-- The part of a line that belongs to a plain scalar: up to a colon before a blank, or a blank
before a number sign. -/
def splitPlain : List Char → List Char × List Char
  | [] => ([], [])
  | c :: rest =>
    if isBreak c || (c == ':' && endsWord rest) || (c == ' ' && rest.head? == some '#') then
      ([], c :: rest)
    else
      let (text, rest) := splitPlain rest
      (c :: text, rest)

def readPlain? (s : List Char) : Option (Scalar × List Char) :=
  let (text, rest) := splitPlain s
  if startsIndicator s || text.isEmpty || text.any (!isPrintable ·) then none
  else some (⟨dropTailWhile (· == ' ') text, true⟩, rest)

/-- What is read for the blanks and line ends between two other characters: the blanks if there is
no line end, a blank for a single line feed, and for several of them those after the first. -/
def folded (blanks : List Char) : List Char → List Char
  | [] => blanks
  | ['\n'] => [' ']
  | '\n' :: further => further
  | breaks => breaks

/-- The text in single quotes up to the closing one; `blanks` and `breaks` were read after the last
other character. -/
def readSingleQuoted? (blanks breaks : List Char) : List Char → Option (List Char × List Char)
  | [] => none
  | '\x27' :: '\x27' :: rest => do
    let (text, rest) ← readSingleQuoted? [] [] rest
    return (folded blanks breaks ++ '\x27' :: text, rest)
  | '\x27' :: rest => some (folded blanks breaks, rest)
  | c :: rest =>
    if !isPrintable c then none
    else if isBreak c then
      if startsDocument rest then none else readSingleQuoted? [] (breaks ++ [c]) rest
    else if c == ' ' then
      readSingleQuoted? (if breaks.isEmpty then blanks ++ [c] else []) breaks rest
    else do
      let (text, rest) ← readSingleQuoted? [] [] rest
      return (folded blanks breaks ++ c :: text, rest)

/-- The character a letter stands for after a backslash. -/
def unescape? : Char → Option Char
  | '0' => some '\x00'
  | 'a' => some '\x07'
  | 'b' => some '\x08'
  | 't' => some '\t'
  | 'n' => some '\n'
  | 'v' => some '\x0b'
  | 'f' => some '\x0c'
  | 'r' => some '\r'
  | 'e' => some '\x1b'
  | ' ' => some ' '
  | '"' => some '"'
  | '/' => some '/'
  | '\\' => some '\\'
  | 'N' => some '\u0085'
  | '_' => some '\u00a0'
  | 'L' => some '\u2028'
  | 'P' => some '\u2029'
  | _ => none

/-- The character with a number in hexadecimal digits. -/
def readCode? (digits : List Char) : Option Char :=
  (readNat? 16 digits).bind fun n => if n.isValidChar then some (Char.ofNat n) else none

/-- The text in double quotes up to the closing one, on one line. -/
def readDoubleQuoted? : List Char → Option (List Char × List Char)
  | [] => none
  | '"' :: rest => some ([], rest)
  | '\\' :: 'x' :: a :: b :: rest => do
    let c ← readCode? [a, b]
    let (text, rest) ← readDoubleQuoted? rest
    return (c :: text, rest)
  | '\\' :: 'u' :: a :: b :: c :: d :: rest => do
    let c ← readCode? [a, b, c, d]
    let (text, rest) ← readDoubleQuoted? rest
    return (c :: text, rest)
  | '\\' :: 'U' :: a :: b :: c :: d :: e :: f :: g :: h :: rest => do
    let c ← readCode? [a, b, c, d, e, f, g, h]
    let (text, rest) ← readDoubleQuoted? rest
    return (c :: text, rest)
  | '\\' :: c :: rest => do
    let c ← unescape? c
    let (text, rest) ← readDoubleQuoted? rest
    return (c :: text, rest)
  | c :: rest =>
    if !isPrintable c || isBreak c then none
    else do
      let (text, rest) ← readDoubleQuoted? rest
      return (c :: text, rest)

/-- A scalar that may stand in a line with something else. -/
def readFlow? : List Char → Option (Scalar × List Char)
  | '\x27' :: rest => (readSingleQuoted? [] [] rest).map fun (text, rest) => (⟨text, false⟩, rest)
  | '"' :: rest => (readDoubleQuoted? rest).map fun (text, rest) => (⟨text, false⟩, rest)
  | s => readPlain? s

/-- Which of the line ends at its end belong to a block: none, the first, or all. -/
inductive Chomping where
  | strip
  | clip
  | keep
  deriving DecidableEq, Repr

def Chomping.apply (text : List Char) : Chomping → List Char
  | strip => dropTailWhile isBreak text
  | clip =>
    let content := dropTailWhile isBreak text
    if content.isEmpty then [] else text.take (content.length + 1)
  | keep => text

def splitChomping : List Char → Chomping × List Char
  | '-' :: rest => (.strip, rest)
  | '+' :: rest => (.keep, rest)
  | rest => (.clip, rest)

/-- The digit, if there is one, by which the lines of a block are indented. -/
def splitHint : List Char → Option Nat × List Char
  | [] => (none, [])
  | c :: rest =>
    if '1' ≤ c ∧ c ≤ '9' then (some (c.toNat - '0'.toNat), rest) else (none, c :: rest)

/-- The lines with at least `column` blanks, without these, and the input from the first other line
on; `left` of the blanks of the present line are still to come. Empty lines may have fewer. -/
def splitBlock (column : Nat) (left : Nat) : List Char → List Char × List Char
  | [] => ([], [])
  | c :: rest =>
    if isBreak c then
      let (text, rest) := splitBlock column column rest
      (c :: text, rest)
    else if left = 0 then
      let (text, rest) := splitBlock column 0 rest
      (c :: text, rest)
    else if c == ' ' then splitBlock column (left - 1) rest
    else ([], margin (column - left) ++ c :: rest)

/-- The column of the lines of a block in what begins in column `width`: by its hint, or else as its
first line shows it, which is not empty. -/
def blockColumn? (width : Nat) (hint : Option Nat) (s : List Char) : Option Nat :=
  match hint with
  | some n => some (width + n)
  | none =>
    if width < indentation s ∧ (unindented s).head?.any (!isBreak ·) then some (indentation s)
    else none

/-- A literal block after its bar. -/
def readLiteral? (width : Nat) (s : List Char) : Option (List Char × List Char) := do
  let (hint, s) := splitHint s
  let (chomping, s) := splitChomping s
  let s ← endLine? s
  let column ← blockColumn? width hint s
  let (text, rest) := splitBlock column column s
  if text.all isPrintable then return (chomping.apply text, rest) else none

/-- A scalar to the end of its last line. -/
def readScalar? (width : Nat) : List Char → Option (Scalar × List Char)
  | '|' :: rest => (readLiteral? width rest).map fun (text, rest) => (⟨text, false⟩, rest)
  | s => do
    let (scalar, rest) ← readFlow? s
    let rest ← endLine? rest
    return (scalar, rest)

/-- A key before its colon, which is on the same line and not more than 1024 characters away. -/
def readKey? (s : List Char) : Option (List Char × List Char) := do
  let (scalar, rest) ← readFlow? s
  match unindented rest with
  | ':' :: rest =>
    let lead := s.take (s.length - rest.length)
    if endsWord rest && !lead.any isBreak && lead.length ≤ 1024 then return (scalar.text, rest)
    else none
  | _ => none

/-- The key of an entry in column `width`, where its value stands, and what comes after its colon. A
key after a question mark has its colon on a line of its own. -/
def readEntryKey? (width : Nat) (s : List Char) : Option (List Char × Place × List Char) :=
  if startsMark '?' s then do
    let (scalar, rest) ← readScalar? width (unindented (s.drop 1))
    let line ← lineAt? width rest
    if startsMark ':' line then return (scalar.text, .afterMark, line.drop 1) else none
  else (readKey? s).map fun (key, rest) => (key, .underKey, rest)

mutual

/-- A value after a mark or key in column `width`. The number before bounds the steps: one for each
character is enough. -/
def readValue? : Nat → Place → Nat → List Char → Option (Json × List Char)
  | 0, _, _, _ => none
  | steps + 1, place, width, s =>
    match endLine? s with
    | some s => do
      let column := indentation s
      let line ← lineAt? column s
      if startsMark '-' line then
        guard (width < column ∨ (width = column ∧ place = .underKey))
        let (items, rest) ← readItems? steps column line
        return (.arr items, rest)
      else
        guard (width < column)
        let (members, rest) ← readEntries? steps column line
        return (.obj members, rest)
    | none =>
      let column := width + 1 + indentation s
      match unindented s with
      | '[' :: ']' :: rest => (endLine? rest).map (.arr [], ·)
      | '\x7b' :: '\x7d' :: rest => (endLine? rest).map (.obj [], ·)
      | line =>
        if place = .afterMark ∧ startsMark '-' line then
          (readItems? steps column line).map fun (items, rest) => (.arr items, rest)
        else if place = .afterMark ∧ (startsMark '?' line ∨ (readKey? line).isSome) then
          (readEntries? steps column line).map fun (members, rest) => (.obj members, rest)
        else (readScalar? width line).map fun (scalar, rest) => (scalar.value, rest)

/-- An item, from its hyphen in a column on, and those in the same column after it. -/
def readItems? : Nat → Nat → List Char → Option (List Json × List Char)
  | 0, _, _ => none
  | steps + 1, column, s => do
    let (item, rest) ← readValue? steps .afterMark column (s.drop 1)
    match (lineAt? column rest).filter (startsMark '-') with
    | some line =>
      let (items, rest) ← readItems? steps column line
      return (item :: items, rest)
    | none => return ([item], rest)

/-- An entry, from its key in a column on, and those in the same column after it. -/
def readEntries? : Nat → Nat → List Char → Option (List (String × Json) × List Char)
  | 0, _, _ => none
  | steps + 1, column, s => do
    let (key, place, rest) ← readEntryKey? column s
    let (value, rest) ← readValue? steps place column rest
    match lineAt? column rest with
    | some line =>
      let (members, rest) ← readEntries? steps column line
      return ((String.ofList key, value) :: members, rest)
    | none => return ([(String.ofList key, value)], rest)

end

/-- The mapping a text holds, with nothing after it. -/
def parse? (text : String) : Option Json := do
  let s := text.toList
  let line ← lineAt? 0 s
  let (members, rest) ← readEntries? (s.length + 1) 0 line
  if rest.isEmpty then return .obj members else none

end WorkflowPod.Yaml
