/-!
How alike two words are, by the share of characters they have in common at about the same place and
in the same order.
-/
namespace WorkflowPod.CommandLine

/-- A character of the second word and whether it has a partner in the first. -/
abbrev Slot := Char × Bool

/-- Gives `c` the first free equal slot among the next `span` after `skip` slots, if there is
one. -/
def claim? (c : Char) : (skip span : Nat) → List Slot → Option (List Slot)
  | _, _, [] => none
  | skip + 1, span, slot :: slots => (claim? c skip span slots).map (slot :: ·)
  | 0, 0, _ => none
  | 0, span + 1, (d, taken) :: slots =>
    if c = d ∧ !taken then some ((d, true) :: slots)
    else (claim? c 0 span slots).map ((d, taken) :: ·)

/-- The characters of a word from the index `i` on that find a partner within `reach`, and the slots
after that. -/
def partners (reach : Nat) : (i : Nat) → List Char → List Slot → List Char × List Slot
  | _, [], slots => ([], slots)
  | i, c :: rest, slots =>
    match claim? c (i - reach) (i + reach + 1 - (i - reach)) slots with
    | some slots =>
      let (found, slots) := partners reach (i + 1) rest slots
      (c :: found, slots)
    | none => partners reach (i + 1) rest slots

/-- The likeness of two words as a fraction: the mean of the shares of the characters with a partner
in either word and of the partners in order among them. -/
def likeness (a b : List Char) : Nat × Nat :=
  let reach := max a.length b.length / 2 - 1
  let (found, slots) := partners reach 0 a (b.map (·, false))
  let others := (slots.filter Prod.snd).map Prod.fst
  let m := found.length
  let swaps := ((found.zip others).filter fun (c, d) => c != d).length / 2
  if a.isEmpty ∧ b.isEmpty then (1, 1)
  else if m = 0 then (0, 1)
  else
    (m * m * b.length + m * m * a.length + (m - swaps) * a.length * b.length,
      3 * a.length * b.length * m)

def fractionLe (x y : Nat × Nat) : Bool := x.1 * y.2 ≤ y.1 * x.2

/-- The candidates that are more than seven tenths alike to a word, the most alike last. -/
def similar (word : String) (candidates : List String) : List String :=
  let rated := candidates.map fun candidate => (likeness word.toList candidate.toList, candidate)
  let alike := rated.filter fun (rate, _) => !fractionLe rate (7, 10)
  (alike.mergeSort fun x y => fractionLe x.1 y.1).map Prod.snd

end WorkflowPod.CommandLine
