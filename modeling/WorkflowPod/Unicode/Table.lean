import WorkflowPod.Text.Digits
import WorkflowPod.Text.Search

/-!
Tables of character properties, written as text: runs of code points in hexadecimal, `first-last` or
a single one, each with a colon and its values if it has any.
-/
namespace WorkflowPod.Unicode

open Text

/-- A run of code points and what the table says of them. -/
structure Table.Run where
  first : Nat
  last : Nat
  values : List Nat
  deriving Repr

def Table.Run.value (run : Table.Run) : Nat := run.values.headD 0

/-- Runs of code points. -/
structure Table where
  runs : Array Table.Run

namespace Table

def readNumber (s : List Char) : Nat := (readDigits? 16 s).getD 0

def readRun (s : List Char) : Run :=
  let (points, values) := (cutAt? (· == ':') s).getD (s, [])
  let values := if values.isEmpty then [] else (values.splitOn '.').map readNumber
  match cutAt? (· == '-') points with
  | some (first, last) => ⟨readNumber first, readNumber last, values⟩
  | none => ⟨readNumber points, readNumber points, values⟩

/-- The table rows of text describe, with blanks between the runs of a row. -/
def read (rows : List String) : Table :=
  ⟨((rows.flatMap fun row => row.toList.splitOn ' ').map readRun).toArray⟩

def find? (table : Table) (n : Nat) : Option Run :=
  table.runs.find? fun run => run.first ≤ n && n ≤ run.last

/-- The run a code point is in, if every second code point of a run counts. -/
def findEvery? (table : Table) (n : Nat) : Option Run :=
  table.runs.find? fun run => run.first ≤ n && n ≤ run.last && (n - run.first) % 2 == 0

def findValues? (table : Table) (values : List Nat) : Option Run :=
  table.runs.find? fun run => run.values == values

end Table

end WorkflowPod.Unicode
