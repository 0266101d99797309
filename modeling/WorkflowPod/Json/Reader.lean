import WorkflowPod.Json.Basic
import WorkflowPod.Text.Digits
import WorkflowPod.Text.Search

/-!
Reading JSON text by the strict grammar: four blank characters, no comments, no trailing commas,
no text after the value. Every reader returns what it read and the rest of the input.
-/
namespace WorkflowPod.Json

open Text

def isBlank (c : Char) : Bool := c == ' ' || c == '\n' || c == '\r' || c == '\t'

/-- What a string is written with: a character, or a sixteen bit unit by its number. -/
inductive Piece where
  | char (c : Char)
  | unit (n : Nat)

/-- The text of the pieces; none if half of a surrogate pair stands alone. -/
def Piece.join? : List Piece → Option (List Char)
  | [] => some []
  | .char c :: rest => (join? rest).map (c :: ·)
  | .unit n :: rest =>
    if n < 0xD800 ∨ 0xDFFF < n then (join? rest).map (Char.ofNat n :: ·)
    else
      match rest with
      | .unit m :: rest =>
        if n ≤ 0xDBFF ∧ 0xDC00 ≤ m ∧ m ≤ 0xDFFF then
          (join? rest).map (Char.ofNat (0x10000 + (n - 0xD800) * 0x400 + (m - 0xDC00)) :: ·)
        else none
      | _ => none

/-- The character a letter stands for after a backslash. -/
def unescape? : Char → Option Char
  | '"' => some '"'
  | '\\' => some '\\'
  | '/' => some '/'
  | 'b' => some '\x08'
  | 'f' => some '\x0c'
  | 'n' => some '\n'
  | 'r' => some '\r'
  | 't' => some '\t'
  | _ => none

/-- The pieces of a string up to its closing quote. -/
def readPieces? : List Char → Option (List Piece × List Char)
  | [] => none
  | '"' :: rest => some ([], rest)
  | '\\' :: 'u' :: a :: b :: c :: d :: rest => do
    let n ← readNat? 16 [a, b, c, d]
    let (pieces, rest) ← readPieces? rest
    return (.unit n :: pieces, rest)
  | '\\' :: c :: rest => do
    let c ← unescape? c
    let (pieces, rest) ← readPieces? rest
    return (.char c :: pieces, rest)
  | c :: rest => do
    guard (0x20 ≤ c.toNat)
    let (pieces, rest) ← readPieces? rest
    return (.char c :: pieces, rest)

/-- The text of a string up to its closing quote, none if it is no text. -/
def readString? (s : List Char) : Option (Option String × List Char) :=
  (readPieces? s).map fun (pieces, rest) => ((Piece.join? pieces).map String.ofList, rest)

/-- The digits `s` starts with, at least one, and the rest. -/
def readDigitRun? (s : List Char) : Option (List Char × List Char) :=
  let digits := s.takeWhile Char.isDigit
  if digits.isEmpty then none else some (digits, s.dropWhile Char.isDigit)

/-- The whole part of a numeral: no zero before other digits. -/
def readWhole? : List Char → Option (List Char × List Char)
  | '0' :: rest => some (['0'], rest)
  | s => readDigitRun? s

def readFraction? : List Char → Option (List Char × List Char)
  | '.' :: rest => (readDigitRun? rest).map fun (digits, rest) => ('.' :: digits, rest)
  | s => some ([], s)

def readExponent? : List Char → Option (List Char × List Char)
  | [] => some ([], [])
  | c :: rest =>
    if c == 'e' || c == 'E' then
      match rest with
      | '+' :: rest => (readDigitRun? rest).map fun (digits, rest) => (c :: '+' :: digits, rest)
      | '-' :: rest => (readDigitRun? rest).map fun (digits, rest) => (c :: '-' :: digits, rest)
      | rest => (readDigitRun? rest).map fun (digits, rest) => (c :: digits, rest)
    else some ([], c :: rest)

/-- The number a numeral denotes. A whole one that fits sixty-four bits is an integer, but minus
zero is not. -/
def ofNumeral (negative : Bool) (whole tail : List Char) : Json :=
  let n := (readNat? 10 whole).getD 0
  let fits := if negative then 0 < n ∧ 2 * n ≤ UInt64.size else n < UInt64.size
  if tail.isEmpty ∧ fits then
    .int (if negative then -n else n)
  else
    .decimal (String.ofList ((if negative then ['-'] else []) ++ whole ++ tail))

/-- A number without its sign. -/
def readUnsigned? (negative : Bool) (s : List Char) : Option (Json × List Char) := do
  let (whole, s) ← readWhole? s
  let (fraction, s) ← readFraction? s
  let (exponent, s) ← readExponent? s
  return (ofNumeral negative whole (fraction ++ exponent), s)

def readNumber? : List Char → Option (Json × List Char)
  | '-' :: rest => readUnsigned? true rest
  | s => readUnsigned? false s

def readWord? (word : String) (value : Json) (s : List Char) : Option (Json × List Char) :=
  (afterLead? word.toList s).map fun rest => (value, rest)

/-- The object of members whose keys may be no text. -/
def ofMembers (members : List (Option String × Json)) : Json :=
  match members.mapM fun (key, value) => key.map (·, value) with
  | some members => .obj members
  | none => .unreadable

mutual

/-- A value after blanks. The number bounds the steps: one for each character is enough. -/
def readValue? : Nat → List Char → Option (Json × List Char)
  | 0, _ => none
  | steps + 1, s =>
    match s.dropWhile isBlank with
    | '"' :: rest => (readString? rest).map fun (text, rest) =>
      ((text.map Json.str).getD .unreadable, rest)
    | '[' :: rest =>
      match rest.dropWhile isBlank with
      | ']' :: rest => some (.arr [], rest)
      | rest => (readElements? steps rest).map fun (elements, rest) => (.arr elements, rest)
    | '{' :: rest =>
      match rest.dropWhile isBlank with
      | '}' :: rest => some (.obj [], rest)
      | rest => (readMembers? steps rest).map fun (members, rest) => (ofMembers members, rest)
    | 't' :: rest => readWord? "rue" (.bool true) rest
    | 'f' :: rest => readWord? "alse" (.bool false) rest
    | 'n' :: rest => readWord? "ull" .null rest
    | s => readNumber? s

def readElements? : Nat → List Char → Option (List Json × List Char)
  | 0, _ => none
  | steps + 1, s => do
    let (value, s) ← readValue? steps s
    match s.dropWhile isBlank with
    | ']' :: rest => return ([value], rest)
    | ',' :: rest =>
      let (values, rest) ← readElements? steps rest
      return (value :: values, rest)
    | _ => none

/-- One member and those after it, up to the closing brace. -/
def readMembers? : Nat → List Char → Option (List (Option String × Json) × List Char)
  | 0, _ => none
  | steps + 1, s =>
    match s.dropWhile isBlank with
    | '"' :: rest => do
      let (key, rest) ← readString? rest
      match rest.dropWhile isBlank with
      | ':' :: rest =>
        let (value, rest) ← readValue? steps rest
        match rest.dropWhile isBlank with
        | '}' :: rest => return ([(key, value)], rest)
        | ',' :: rest =>
          let (members, rest) ← readMembers? steps rest
          return ((key, value) :: members, rest)
        | _ => none
      | _ => none
    | _ => none

end

/-- The value a text holds, with nothing but blanks around it. -/
def parse? (text : String) : Option Json :=
  let s := text.toList
  match readValue? (s.length + 1) s with
  | some (value, rest) => if rest.all isBlank then some value else none
  | none => none

end WorkflowPod.Json
