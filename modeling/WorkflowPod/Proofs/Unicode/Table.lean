import WorkflowPod.Unicode.Table

/-!
Facts about all runs of a table. The tables are text, so these are found by evaluation: of the
reader on the characters of the rows, and then of a check on the runs. Sets of code points are the
bits of a number, by which a check of some thousand runs against each other stays cheap.
-/
namespace WorkflowPod.Unicode

/-- The code points from `first` on, `count` of them. -/
def interval (first count : Nat) : Nat := (1 <<< count - 1) <<< first

theorem testBit_interval (first count n : Nat) :
    (interval first count).testBit n = decide (first ≤ n ∧ n < first + count) := by
  rw [interval, Nat.one_shiftLeft, Nat.testBit_shiftLeft, Nat.testBit_two_pow_sub_one, ← Bool.decide_and,
    decide_eq_decide]
  omega

/-- Every second number from zero on, `count` of them. -/
def alternate : (count : Nat) → Nat
  | 0 => 0
  | count + 1 => 1 ||| alternate count <<< 2

theorem testBit_alternate (count n : Nat) :
    (alternate count).testBit n = true ↔ n % 2 = 0 ∧ n < 2 * count := by
  induction count generalizing n with
  | zero => simp [alternate]
  | succ count ih =>
    rw [alternate, Nat.testBit_or, Nat.testBit_shiftLeft, Bool.or_eq_true, Bool.and_eq_true,
      Nat.testBit_one_eq_true_iff_self_eq_zero, decide_eq_true_eq, ih]
    omega

/-- Whether none of the `count` code points from `first` on is in the set. -/
def isClear (points first count : Nat) : Bool := (points >>> first) % (1 <<< count) == 0

theorem testBit_of_isClear {points first count n : Nat} (h : isClear points first count = true)
    (hfirst : first ≤ n) (hn : n < first + count) : points.testBit n = false := by
  obtain ⟨k, rfl⟩ := Nat.exists_eq_add_of_le hfirst
  have hzero : (points >>> first) % (1 <<< count) = 0 := eq_of_beq h
  have hbit := congrArg (Nat.testBit · k) hzero
  rw [Nat.one_shiftLeft, Nat.testBit_mod_two_pow, Nat.testBit_shiftRight, Nat.zero_testBit] at hbit
  simpa [show k < count by omega] using hbit

namespace Table

section Find

variable {table : Table} {n : Nat} {run : Run}

theorem mem_of_find? (h : table.find? n = some run) :
    run ∈ table.runs.toList ∧ run.first ≤ n ∧ n ≤ run.last := by
  have hmem := Array.mem_of_find?_eq_some h
  have hrun := Array.find?_some h
  rw [Bool.and_eq_true, decide_eq_true_eq, decide_eq_true_eq] at hrun
  exact ⟨Array.mem_toList_iff.mpr hmem, hrun⟩

theorem mem_of_findEvery? (h : table.findEvery? n = some run) :
    run ∈ table.runs.toList ∧ run.first ≤ n ∧ n ≤ run.last ∧ (n - run.first) % 2 = 0 := by
  have hmem := Array.mem_of_find?_eq_some h
  have hrun := Array.find?_some h
  rw [Bool.and_eq_true, Bool.and_eq_true, decide_eq_true_eq, decide_eq_true_eq, beq_iff_eq] at hrun
  exact ⟨Array.mem_toList_iff.mpr hmem, hrun.1.1, hrun.1.2, hrun.2⟩

theorem mem_of_findValues? {values : List Nat} (h : table.findValues? values = some run) :
    run ∈ table.runs.toList ∧ run.values = values := by
  have hmem := Array.mem_of_find?_eq_some h
  have hrun := Array.find?_some h
  exact ⟨Array.mem_toList_iff.mpr hmem, eq_of_beq hrun⟩

end Find

/-- Whether all runs are outside ASCII. -/
def isWide (runs : List Run) : Bool := runs.all fun run => decide (0x80 ≤ run.first)

theorem find?_of_isWide {table : Table} (h : isWide table.runs.toList = true) {n : Nat}
    (hn : n < 0x80) : table.find? n = none := by
  cases hfind : table.find? n with
  | none => rfl
  | some run =>
    obtain ⟨hmem, hfirst, -⟩ := mem_of_find? hfind
    have hwide := List.all_eq_true.mp h run hmem
    rw [decide_eq_true_eq] at hwide
    omega

/-- The code points in runs. -/
def covered (runs : List Run) : Nat :=
  runs.foldr (fun run points => interval run.first (run.last + 1 - run.first) ||| points) 0

theorem testBit_covered {runs : List Run} {n : Nat} :
    (covered runs).testBit n = true ↔ ∃ run ∈ runs, run.first ≤ n ∧ n ≤ run.last := by
  induction runs with
  | nil => simp [covered]
  | cons run runs ih =>
    rw [covered, List.foldr_cons, ← covered, Nat.testBit_or, Bool.or_eq_true, ih, testBit_interval,
      decide_eq_true_eq]
    have hrun : run.first ≤ n ∧ n < run.first + (run.last + 1 - run.first) ↔
        run.first ≤ n ∧ n ≤ run.last := by omega
    simp [hrun]

/-- The code points in runs of which every second one counts. -/
def coveredEvery (runs : List Run) : Nat :=
  runs.foldr (fun run points =>
    alternate ((run.last + 2 - run.first) / 2) <<< run.first ||| points) 0

theorem testBit_coveredEvery {runs : List Run} {n : Nat} :
    (coveredEvery runs).testBit n = true ↔
      ∃ run ∈ runs, run.first ≤ n ∧ n ≤ run.last ∧ (n - run.first) % 2 = 0 := by
  induction runs with
  | nil => simp [coveredEvery]
  | cons run runs ih =>
    rw [coveredEvery, List.foldr_cons, ← coveredEvery, Nat.testBit_or, Bool.or_eq_true, ih,
      Nat.testBit_shiftLeft, Bool.and_eq_true, testBit_alternate, decide_eq_true_eq]
    have hrun : n ≥ run.first ∧ (n - run.first) % 2 = 0 ∧
        n - run.first < 2 * ((run.last + 2 - run.first) / 2) ↔
        run.first ≤ n ∧ n ≤ run.last ∧ (n - run.first) % 2 = 0 := by omega
    simp [hrun]

theorem find?_eq_none_iff {table : Table} {n : Nat} :
    table.find? n = none ↔ (covered table.runs.toList).testBit n = false := by
  rw [← Bool.not_eq_true, testBit_covered, find?, Array.find?_eq_none]
  simp

theorem findEvery?_eq_none_iff {table : Table} {n : Nat} :
    table.findEvery? n = none ↔ (coveredEvery table.runs.toList).testBit n = false := by
  rw [← Bool.not_eq_true, testBit_coveredEvery, findEvery?, Array.find?_eq_none]
  simp

/-- Rows of text with the characters each is made of. -/
inductive Spelled : List String → List (List Char) → Prop where
  | nil : Spelled [] []
  | cons (row : List Char) {rows : List String} {spelling : List (List Char)}
      (h : Spelled rows spelling) : Spelled (String.ofList row :: rows) (row :: spelling)

/-- The runs of a table with these rows. -/
def readRuns (spelling : List (List Char)) : List Run :=
  (spelling.flatMap (·.splitOn ' ')).map readRun

theorem Spelled.runs_read {rows : List String} {spelling : List (List Char)}
    (h : Spelled rows spelling) : (read rows).runs.toList = readRuns spelling := by
  have hrows : rows.flatMap (fun row => row.toList.splitOn ' ') =
      spelling.flatMap (·.splitOn ' ') := by
    induction h with
    | nil => rfl
    | cons row h ih => rw [List.flatMap_cons, List.flatMap_cons, ih, String.toList_ofList]
  rw [read, hrows, readRuns]

/-- What holds of the runs the reader finds in the rows holds of the table. -/
theorem Spelled.check {rows : List String} {spelling : List (List Char)} (h : Spelled rows spelling)
    (check : List Run → Bool) (hcheck : check (readRuns spelling) = true) :
    check (read rows).runs.toList = true := by
  rw [h.runs_read]
  exact hcheck

end Table

end WorkflowPod.Unicode
