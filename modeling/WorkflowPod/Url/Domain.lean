import WorkflowPod.Unicode.Direction
import WorkflowPod.Unicode.HostMapping
import WorkflowPod.Unicode.Joining
import WorkflowPod.Url.Punycode

/-!
Internationalised host names: the ASCII form of a name, each label that needs it in Punycode. Any
length and any place of hyphens is accepted.
-/
namespace WorkflowPod.Url.Domain

open Text Unicode

/-- The start of a label in Punycode. -/
def mark : List Char := ['x', 'n', '-', '-']

def isPlain (s : List Char) : Bool := s.all (·.toNat < 0x80)

/-- Characters of ASCII that a name may not have. -/
def isForbidden (c : Char) : Bool :=
  c.toNat ≤ 0x20 || c.toNat == 0x7F || "%/:<>?@[\\]^|#".toList.contains c

/-- A name with its characters replaced and composed. -/
def canonical? (s : List Char) : Option (List Char) := (mapHostChars? s).map normalize

/-- The text a label in Punycode stands for. It has characters outside ASCII and is canonical. -/
def decodeLabel? (encoded : List Char) : Option (List Char) := do
  guard (encoded.length ≤ 2000)
  let label ← Punycode.decode? encoded
  guard (!isPlain label ∧ canonical? label = some label)
  return label

/-- The text of a label of a canonical name. -/
def label? (s : List Char) : Option (List Char) :=
  match afterLead? mark s with
  | some encoded => if isPlain s then decodeLabel? encoded else none
  | none => some s

/-- Whether a label may be in a name, its direction apart. -/
def isAcceptable (label : List Char) : Bool :=
  !label.any isForbidden && !label.contains '.' && !label.head?.any isMark && joinersFit [] label

def labelToAscii? (label : List Char) : Option (List Char) :=
  if isPlain label then some label
  else if label.length ≤ 1000 then some (mark ++ Punycode.encode label) else none

def toAscii? (name : List Char) : Option (List Char) := do
  let canonical ← canonical? name
  let labels ← (canonical.splitOn '.').mapM label?
  guard (labels.all isAcceptable)
  let bidirectional := labels.any fun label => label.any fun c => (direction c).isBidirectional
  guard (!bidirectional || labels.all hasClearDirection)
  let labels ← labels.mapM labelToAscii?
  return ['.'].intercalate labels

end WorkflowPod.Url.Domain
