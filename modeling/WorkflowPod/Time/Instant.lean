import WorkflowPod.Text.Blank
import WorkflowPod.Text.Digits
import WorkflowPod.Time.Calendar

/-!
Points in time, read from text in the manner of RFC 3339 with some freedom (blanks between the
parts, single digits, a signed year, `UTC` for `Z`) and written in whole seconds of UTC.
-/
namespace WorkflowPod.Time

open Text

/-- A second, counted from 1970-01-01T00:00:00Z without leap seconds; `leap` tells the leap second
after it from itself. -/
structure Instant where
  seconds : Int
  leap : Bool
  deriving DecidableEq, Repr

namespace Instant

/-- A number of one to `width` digits after blanks. -/
def readField? (width : Nat) (s : List Char) : Option (Nat × List Char) :=
  let s := s.dropWhile isBlank
  let digits := (s.take width).takeWhile Char.isDigit
  (readNat? 10 digits).map fun n => (n, s.drop digits.length)

/-- A year after blanks: up to four digits, or a sign and any number of digits. -/
def readYear? (s : List Char) : Option (Int × List Char) :=
  match s.dropWhile isBlank with
  | '+' :: rest => signed rest 1
  | '-' :: rest => signed rest (-1)
  | rest => (readField? 4 rest).map fun (n, rest) => ((n : Int), rest)
where
  /-- All the digits `s` starts with, times `sign`. -/
  signed (s : List Char) (sign : Int) : Option (Int × List Char) :=
    let digits := s.takeWhile Char.isDigit
    (readNat? 10 digits).map fun n => (sign * n, s.drop digits.length)

def readMark? (mark : Char) (s : List Char) : Option (List Char) :=
  match s.dropWhile isBlank with
  | c :: rest => if c = mark then some rest else none
  | [] => none

/-- A date in the range of years that is supported. -/
def readDate? (s : List Char) : Option (Date × List Char) := do
  let (year, s) ← readYear? s
  let s ← readMark? '-' s
  let (month, s) ← readField? 2 s
  let s ← readMark? '-' s
  let (day, s) ← readField? 2 s
  let date : Date := ⟨year, month, day⟩
  guard (date.isValid ∧ -262143 ≤ year ∧ year ≤ 262142)
  return (date, s)

def skipFraction? : List Char → Option (List Char)
  | '.' :: rest =>
    match rest with
    | c :: _ => if c.isDigit then some (rest.dropWhile Char.isDigit) else none
    | [] => none
  | s => some s

/-- The second of the day, and whether it is a leap second. -/
def readTime? (s : List Char) : Option ((Nat × Bool) × List Char) := do
  let (hour, s) ← readField? 2 s
  let s ← readMark? ':' s
  let (minute, s) ← readField? 2 s
  let s ← readMark? ':' s
  let (second, s) ← readField? 2 s
  let s ← skipFraction? s
  guard (hour < 24 ∧ minute < 60 ∧ second ≤ 60)
  return ((hour * 3600 + minute * 60 + min second 59, second == 60), s)

def readPair? : List Char → Option (Nat × List Char)
  | a :: b :: rest => (readNat? 10 [a, b]).map fun n => (n, rest)
  | _ => none

/-- Hours and minutes ahead of UTC, in seconds; less than a day. -/
def readClock? (s : List Char) : Option (Nat × List Char) := do
  let (hours, s) ← readPair? s
  let (minutes, s) ← readPair? (s.dropWhile fun c => c == ':' || isBlank c)
  guard (hours < 24 ∧ minutes < 60)
  return (hours * 3600 + minutes * 60, s)

/-- Seconds ahead of UTC. -/
def readOffset? (s : List Char) : Option (Int × List Char) :=
  match s with
  | 'Z' :: rest | 'z' :: rest => some (0, rest)
  | '+' :: rest => (readClock? rest).map fun (n, rest) => ((n : Int), rest)
  | '-' :: rest | '\u2212' :: rest => (readClock? rest).map fun (n, rest) => (-(n : Int), rest)
  | a :: b :: c :: rest =>
    if [a, b, c].map Char.toLower = ['u', 't', 'c'] then some (0, rest) else none
  | _ => none

def parse? (text : String) : Option Instant := do
  let (date, s) ← readDate? text.toList
  let s ← match s with
    | c :: rest => if c == 'T' || c == 't' || c == ' ' then some rest else none
    | [] => none
  let ((second, leap), s) ← readTime? s
  let (offset, s) ← readOffset? (s.dropWhile isBlank)
  guard (s.all isBlank)
  return ⟨date.dayNumber * 86400 + second - offset, leap⟩

/-- A year: four digits, or a sign and at least four. -/
def renderYear (year : Int) : List Char :=
  let digits (n : Nat) := if n < 10000 then paddedDigits 4 n else (toString n).toList
  if 0 ≤ year ∧ year ≤ 9999 then digits year.toNat
  else (if year < 0 then '-' else '+') :: digits year.natAbs

/-- The text of an instant in UTC up to its seconds. -/
def renderSeconds (t : Instant) : List Char :=
  let date := Date.ofDayNumber (t.seconds.fdiv 86400)
  let second := (t.seconds.fmod 86400).toNat
  renderYear date.year ++ '-' :: paddedDigits 2 date.month ++
    '-' :: paddedDigits 2 date.day ++ 'T' :: paddedDigits 2 (second / 3600) ++
    ':' :: paddedDigits 2 (second / 60 % 60) ++
    ':' :: paddedDigits 2 (second % 60 + if t.leap then 1 else 0)

def render (t : Instant) : String := String.ofList (t.renderSeconds ++ ['Z'])

/-- The text of an instant and the microseconds after it in UTC. -/
def renderFine (t : Instant) (microseconds : Nat) : String :=
  String.ofList (t.renderSeconds ++ '.' :: paddedDigits 6 microseconds ++ ['Z'])

end Instant

end WorkflowPod.Time
