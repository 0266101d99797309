import WorkflowPod.Text.Digits

/-! Decimal integers of a range. -/
namespace WorkflowPod.Text

inductive IntegerFault where
  | empty
  | invalidDigit
  | tooLarge
  | tooSmall
  deriving DecidableEq, Repr

def IntegerFault.message : IntegerFault → String
  | .empty => "cannot parse integer from empty string"
  | .invalidDigit => "invalid digit found in string"
  | .tooLarge => "number too large to fit in target type"
  | .tooSmall => "number too small to fit in target type"

/-- Reads digits after `n`, adding or subtracting each; the first digit that leads out of the range
from `least` to `most` ends the reading. -/
def readIntegerFrom (least most : Int) (negative : Bool) :
    Int → List Char → Except IntegerFault Int
  | n, [] => .ok n
  | n, c :: rest =>
    match digitOf? 10 c with
    | none => .error .invalidDigit
    | some d =>
      if negative then
        let next := n * 10 - d
        if next < least then .error .tooSmall else readIntegerFrom least most negative next rest
      else
        let next := n * 10 + d
        if most < next then .error .tooLarge else readIntegerFrom least most negative next rest

/-- An optional sign and at least one digit. A range without negative numbers has no minus sign. -/
def readInteger (least most : Int) : List Char → Except IntegerFault Int
  | [] => .error .empty
  | '-' :: digits =>
    if digits.isEmpty ∨ 0 ≤ least then .error .invalidDigit
    else readIntegerFrom least most true 0 digits
  | '+' :: digits =>
    if digits.isEmpty then .error .invalidDigit else readIntegerFrom least most false 0 digits
  | digits => readIntegerFrom least most false 0 digits

/-- An integer of sixty-four bits with a sign. -/
def readInt64 (s : List Char) : Except IntegerFault Int :=
  readInteger Int64.minValue.toInt Int64.maxValue.toInt s

end WorkflowPod.Text
