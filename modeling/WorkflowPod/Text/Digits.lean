/-! Digits of a radix, and the numerals made of them. -/
namespace WorkflowPod.Text

/-- The value of an ASCII digit or letter as a digit, up to 35. -/
def digitValue? (c : Char) : Option Nat :=
  if c.isDigit then some (c.toNat - '0'.toNat)
  else if 'a' ≤ c ∧ c ≤ 'z' then some (c.toNat - 'a'.toNat + 10)
  else if 'A' ≤ c ∧ c ≤ 'Z' then some (c.toNat - 'A'.toNat + 10)
  else none

def digitOf? (radix : Nat) (c : Char) : Option Nat :=
  (digitValue? c).filter (· < radix)

/-- The number a text of digits denotes; a text without digits denotes zero. -/
def readDigits? (radix : Nat) (s : List Char) : Option Nat :=
  s.foldlM (fun n c => (digitOf? radix c).map (n * radix + ·)) 0

/-- The number a nonempty text of digits denotes. -/
def readNat? (radix : Nat) (s : List Char) : Option Nat :=
  if s.isEmpty then none else readDigits? radix s

/-- The digit written for a value below sixteen. -/
def hexDigit (n : Nat) : Char :=
  if n < 10 then Char.ofNat ('0'.toNat + n) else Char.ofNat ('A'.toNat + (n - 10))

/-- The last `width` hexadecimal digits of `n`, in capitals. -/
def hexDigits : (width : Nat) → Nat → List Char
  | 0, _ => []
  | width + 1, n => hexDigits width (n / 16) ++ [hexDigit (n % 16)]

def paddedDigits : (width : Nat) → Nat → List Char
  | 0, _ => []
  | width + 1, n => paddedDigits width (n / 10) ++ [Char.ofNat ('0'.toNat + n % 10)]

end WorkflowPod.Text
