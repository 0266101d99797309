import WorkflowPod.Text.Search

/-!
Punycode: text in the letters, digits and hyphens of ASCII. The other characters follow the plain
ones as numbers that tell, in order of the characters, how far apart they come.
-/
namespace WorkflowPod.Url.Punycode

/-- The digit for a value below 36: letters first. -/
def digit (n : Nat) : Char :=
  if n < 26 then Char.ofNat ('a'.toNat + n) else Char.ofNat ('0'.toNat + (n - 26))

def value? (c : Char) : Option Nat :=
  if 'a' ≤ c ∧ c ≤ 'z' then some (c.toNat - 'a'.toNat)
  else if 'A' ≤ c ∧ c ≤ 'Z' then some (c.toNat - 'A'.toNat)
  else if '0' ≤ c ∧ c ≤ '9' then some (c.toNat - '0'.toNat + 26)
  else none

/-- The value from which a digit at position `k` is not the last one. -/
def threshold (bias k : Nat) : Nat := min 26 (max 1 (k - bias))

theorem threshold_pos (bias k : Nat) : 0 < threshold bias k := by unfold threshold; omega

theorem threshold_le (bias k : Nat) : threshold bias k ≤ 26 := Nat.min_le_left _ _

/-- Divides by 35 down to 455, counting 36 for each step. -/
def damp (delta k : Nat) : Nat × Nat :=
  if 455 < delta then damp (delta / 35) (k + 36) else (delta, k)
termination_by delta
decreasing_by omega

/-- The bias after a number, the `count`-th of the text. -/
def adapt (delta count : Nat) (first : Bool) : Nat :=
  let delta := if first then delta / 700 else delta / 2
  let (delta, k) := damp (delta + delta / count) 0
  k + 36 * delta / (delta + 38)

/-- The digits of a number, from position `k` on. -/
def encodeNumber (bias k n : Nat) : List Char :=
  let t := threshold bias k
  if n < t then [digit n]
  else digit (t + (n - t) % (36 - t)) :: encodeNumber bias (k + 36) ((n - t) / (36 - t))
termination_by n
decreasing_by
  have hpos := threshold_pos bias k
  have hle := Nat.div_le_self (n - threshold bias k) (36 - threshold bias k)
  omega

/-- Where the encoding stands: what is written, the distance since the last character, the bias, and
how many characters of the text are in place. -/
structure Progress where
  written : List Char
  delta : Nat
  bias : Nat
  placed : Nat

/-- Passes one character of the text in the round for the code point `n`. -/
def pass (plain n : Nat) (p : Progress) (c : Char) : Progress :=
  if c.toNat < n then { p with delta := p.delta + 1 }
  else if c.toNat = n then
    { written := p.written ++ encodeNumber p.bias 36 p.delta
      delta := 0
      bias := adapt p.delta (p.placed + 1) (p.placed == plain)
      placed := p.placed + 1 }
  else p

/-- The rounds for ascending code points, the first after `last`. -/
def rounds (s : List Char) (plain last : Nat) (p : Progress) : List Nat → Progress
  | [] => p
  | n :: rest =>
    let start := { p with delta := p.delta + (n - last) * (p.placed + 1) }
    let done := s.foldl (pass plain n) start
    rounds s plain (n + 1) { done with delta := done.delta + 1 } rest

def encode (s : List Char) : List Char :=
  let plain := s.filter (·.toNat < 0x80)
  let wide := ((s.filter (0x80 ≤ ·.toNat)).map Char.toNat).mergeSort.eraseDups
  let start : Progress := ⟨[], 0, 72, plain.length⟩
  plain ++ (if plain.isEmpty then [] else ['-']) ++ (rounds s plain.length 0x80 start wide).written

/-- A number from position `k` on with the weight of its next digit, added to `sum`, and the
rest. -/
def decodeNumber? (bias : Nat) : (k weight sum : Nat) → List Char → Option (Nat × List Char)
  | _, _, _, [] => none
  | k, weight, sum, c :: rest =>
    match value? c with
    | none => none
    | some d =>
      let t := threshold bias k
      let sum := sum + d * weight
      if d < t then some (sum, rest) else decodeNumber? bias (k + 36) (weight * (36 - t)) sum rest

/-- Places a character for each number in `s`: the next has the code point `n` or more and comes at
`i` or later. The number bounds the steps. -/
def place? : (steps : Nat) → (text : List Char) → (n i bias : Nat) → List Char → Option (List Char)
  | _, text, _, _, _, [] => some text
  | 0, _, _, _, _, _ => none
  | steps + 1, text, n, i, bias, s => do
    let (sum, rest) ← decodeNumber? bias 36 1 i s
    let count := text.length + 1
    let n := n + sum / count
    let position := sum % count
    guard (n < 0xD800 ∨ 0xDFFF < n ∧ n < 0x110000)
    place? steps (text.take position ++ Char.ofNat n :: text.drop position) n (position + 1)
      (adapt (sum - i) count (i == 0)) rest

/-- The text of an encoding: plain characters up to the last hyphen, then numbers. -/
def decode? (s : List Char) : Option (List Char) :=
  match Text.cutAtLast? (· == '-') s with
  | some (c :: plain, rest) => place? rest.length (c :: plain) 0x80 0 72 rest
  | _ => place? s.length [] 0x80 0 72 s

end WorkflowPod.Url.Punycode
