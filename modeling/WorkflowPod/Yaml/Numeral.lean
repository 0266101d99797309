import WorkflowPod.Text.Digits
import WorkflowPod.Text.Search

/-! Plain scalars that YAML reads as numbers. -/
namespace WorkflowPod.Yaml

open Text

def afterPlus : List Char → List Char
  | '+' :: rest => rest
  | s => s

def isSigned : List Char → Bool
  | c :: _ => c == '+' || c == '-'
  | [] => false

/-- Digits after a zero, with or without a sign: no number, though it looks like one. -/
def isZeroLed (s : List Char) : Bool :=
  match if isSigned s then s.drop 1 else s with
  | '0' :: d :: rest => (d :: rest).all Char.isDigit
  | _ => false

def readRadix? : List Char → Option (Nat × List Char)
  | '0' :: 'x' :: digits => some (16, digits)
  | '0' :: 'o' :: digits => some (8, digits)
  | '0' :: 'b' :: digits => some (2, digits)
  | _ => none

/-- Whether a text is an unsigned numeral of a radix, or else of ten, up to `limit`. -/
def isNumeralBelow (limit : Nat) (s : List Char) : Bool :=
  let ofRadix := (readRadix? s).bind fun (radix, digits) => readNat? radix digits
  (ofRadix.or (readNat? 10 s)).any (· < limit)

/-- How many integers have 128 bits. -/
def wideSize : Nat := UInt64.size * UInt64.size

/-- Whether a text is read as an integer of 128 bits, with a sign or without. -/
def isInteger (s : List Char) : Bool :=
  !isZeroLed s &&
    (isNumeralBelow wideSize (afterPlus s) ||
      match s with
      | '-' :: rest => isNumeralBelow (wideSize / 2 + 1) rest
      | _ => false)

/-- A decimal numeral as the integer of its digits and a power of ten. -/
structure Scientific where
  digits : Nat
  /-- How many digits there are, zeros at the start included. -/
  length : Nat
  exponent : Int

def readExponent? : List Char → Option Int
  | [] => some 0
  | c :: rest =>
    if c == 'e' || c == 'E' then
      match rest with
      | '-' :: digits => (readNat? 10 digits).map fun n => -(n : Int)
      | rest => (readNat? 10 (afterPlus rest)).map fun n => (n : Int)
    else none

/-- A numeral with a point, an exponent, both or neither, and a digit before or after the point. -/
def readScientific? (s : List Char) : Option Scientific := do
  let whole := s.takeWhile Char.isDigit
  let (fraction, rest) := match s.dropWhile Char.isDigit with
    | '.' :: rest => (rest.takeWhile Char.isDigit, rest.dropWhile Char.isDigit)
    | rest => ([], rest)
  let digits ← readNat? 10 (whole ++ fraction)
  let exponent ← readExponent? rest
  return ⟨digits, (whole ++ fraction).length, exponent - fraction.length⟩

/-- Whether a number is below the least one that is rounded to infinity in sixty-four bits. Numbers
with an exponent far from that one are decided by it. -/
def Scientific.isFinite (n : Scientific) : Bool :=
  let limit := Nat.pow 2 1024 - Nat.pow 2 970
  if n.digits = 0 ∨ n.exponent + n.length < 300 then true
  else if 310 < n.exponent then false
  else if 0 ≤ n.exponent then n.digits * Nat.pow 10 n.exponent.toNat < limit
  else n.digits < limit * Nat.pow 10 n.exponent.natAbs

/-- Whether a text is read as a number with a point, an exponent, or a name of its own. -/
def isReal (s : List Char) : Bool :=
  let unsigned := afterPlus s
  let signedTwice := s.head? == some '+' && isSigned unsigned
  let magnitude := match unsigned with
    | '-' :: rest => rest
    | rest => rest
  !signedTwice && !isZeroLed s &&
    ([".inf", ".Inf", ".INF"].any (·.toList == magnitude) ||
      [".nan", ".NaN", ".NAN"].any (·.toList == s) ||
      (readScientific? magnitude).any Scientific.isFinite)

def isNumber (s : List Char) : Bool := isInteger s || isReal s

end WorkflowPod.Yaml
