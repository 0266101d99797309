import WorkflowPod.Text.Digits
import WorkflowPod.Text.Search

/-! Numeric host addresses in the notations URLs allow, and their normal forms. -/
namespace WorkflowPod.Url

open Text

namespace Ipv4

/-- A part of an address: hexadecimal after `0x`, octal after `0`, else decimal. -/
def readPart? : List Char → Option Nat
  | [] => none
  | '0' :: 'x' :: digits | '0' :: 'X' :: digits => readDigits? 16 digits
  | '0' :: d :: digits => readDigits? 8 (d :: digits)
  | digits => readDigits? 10 digits

/-- The parts of an address; one empty part at the end does not count. -/
def parts (s : List Char) : List (List Char) :=
  let parts := s.splitOn '.'
  if parts.getLast? = some [] then parts.dropLast else parts

/-- Whether a host ends in a number, so that it must be an address. -/
def endsInNumber (s : List Char) : Bool :=
  match (parts s).getLast? with
  | some last => (!last.isEmpty && last.all Char.isDigit) || (readPart? last).isSome
  | none => false

/-- The address a host denotes: up to four parts, of which the last fills what the others leave. -/
def parse? (s : List Char) : Option Nat := do
  let numbers ← (parts s).mapM readPart?
  let last ← numbers.getLast?
  let others := numbers.dropLast
  guard (others.length < 4 ∧ others.all (· < 256) ∧ last < Nat.pow 256 (4 - others.length))
  return others.foldr (fun n (sum : Nat) => n * 0x1000000 + sum / 256) 0 + last

/-- Four decimal parts. -/
def render (n : Nat) : List Char :=
  ['.'].intercalate ([24, 16, 8, 0].map fun shift => (toString ((n >>> shift) % 256)).toList)

end Ipv4

namespace Ipv6

/-- A piece of an address: one to four hexadecimal digits. -/
def readPiece? (s : List Char) : Option Nat :=
  if s.length ≤ 4 then readNat? 16 s else none

/-- A decimal part without a zero before other digits. -/
def readDecimal? (s : List Char) : Option Nat := do
  guard (s.length ≤ 3 ∧ (s.head? ≠ some '0' ∨ s.length = 1))
  (readNat? 10 s).filter (· < 256)

/-- Two pieces written as the four decimal parts of a shorter address. -/
def readDotted? (s : List Char) : Option (List Nat) := do
  match ← (s.splitOn '.').mapM readDecimal? with
  | [a, b, c, d] => return [a * 256 + b, c * 256 + d]
  | _ => none

/-- Pieces with colons between them; with `dotted`, the last two may be in decimal. -/
def readPieces? (dotted : Bool) (s : List Char) : Option (List Nat) :=
  if s.isEmpty then some []
  else do
    let pieces := s.splitOn ':'
    let last ← pieces.getLast?
    let start ← pieces.dropLast.mapM readPiece?
    if dotted ∧ last.contains '.' then return start ++ (← readDotted? last)
    else return start ++ [← readPiece? last]

/-- The text before and after the first two colons in a row. -/
def cutAtGap? : List Char → Option (List Char × List Char)
  | ':' :: ':' :: rest => some ([], rest)
  | c :: rest => (cutAtGap? rest).map fun (l, r) => (c :: l, r)
  | [] => none

/-- The eight pieces of an address; two colons in a row stand for at least one zero. -/
def parse? (s : List Char) : Option (List Nat) :=
  match cutAtGap? s with
  | none => (readPieces? true s).filter (·.length = 8)
  | some (l, r) => do
    let front ← readPieces? false l
    let back ← readPieces? true r
    guard (front.length + back.length ≤ 7)
    return front ++ List.replicate (8 - front.length - back.length) 0 ++ back

/-- The number of zeros at the start of the pieces. -/
def zeroRun (pieces : List Nat) : Nat := (pieces.takeWhile (· == 0)).length

/-- The longest run of zeros, the first of several, by its start and length. -/
def longestZeros : (start : Nat) → List Nat → Nat × Nat
  | _, [] => (0, 0)
  | start, piece :: pieces =>
    let here := zeroRun (piece :: pieces)
    let (later, length) := longestZeros (start + 1) pieces
    if length ≤ here then (start, here) else (later, length)

/-- Pieces in hexadecimal with colons between them. -/
def renderPieces (pieces : List Nat) : List Char :=
  [':'].intercalate (pieces.map (Nat.toDigits 16))

/-- The pieces, with the longest run of two or more zeros left out. -/
def render (pieces : List Nat) : List Char :=
  let (start, length) := longestZeros 0 pieces
  if length < 2 then renderPieces pieces
  else
    renderPieces (pieces.take start) ++ ':' :: ':' :: renderPieces (pieces.drop (start + length))

end Ipv6

end WorkflowPod.Url
