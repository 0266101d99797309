import Mathlib.Data.List.Flatten
import WorkflowPod.Proofs.Path.Separator

/-!
What becomes of the backslashes of a text when its escapes are removed. Main statement: each run of
them is halved by itself, down before a colon and up elsewhere, and nothing else changes.
-/
namespace WorkflowPod.Path.Reference

open Text

/-- A text by its runs of backslashes: the length of each with the other character that ends it, and
the length of the one at the end of the text. Where there are none, the run has the length zero. -/
@[ext]
structure Runs where
  ended : List (Nat × Char)
  last : Nat
  ends_run : ∀ run ∈ ended, run.2 ≠ '\\'

namespace Runs

def backslashes (n : Nat) : List Char := List.replicate n '\\'

/-- Runs, each with the character that ends it, as text. -/
def endedChars (ended : List (Nat × Char)) : List Char :=
  ended.flatMap fun (n, c) => backslashes n ++ [c]

def chars (runs : Runs) : List Char := endedChars runs.ended ++ backslashes runs.last

/-- The runs of a text, read once from left to right, after `run` backslashes. -/
def read (run : Nat) : List Char → Runs
  | [] => ⟨[], run, by simp⟩
  | c :: s =>
    if h : c = '\\' then read (run + 1) s
    else
      let rest := read 0 s
      ⟨(run, c) :: rest.ended, rest.last, List.forall_mem_cons.2 ⟨h, rest.ends_run⟩⟩

/-- A run without its escapes: of two backslashes one is left, and one before a colon is for the
colon. -/
def halve (run : Nat × Char) : Nat × Char :=
  (if run.2 = ':' then run.1 / 2 else (run.1 + 1) / 2, run.2)

def halved (runs : Runs) : Runs where
  ended := runs.ended.map halve
  last := (runs.last + 1) / 2
  ends_run := by
    intro run hrun
    obtain ⟨own, hown, rfl⟩ := List.mem_map.1 hrun
    exact runs.ends_run own hown

theorem endedChars_cons (n : Nat) (c : Char) (ended : List (Nat × Char)) :
    endedChars ((n, c) :: ended) = backslashes n ++ c :: endedChars ended := by
  simp [endedChars]

theorem backslashes_append_cons (n : Nat) (s : List Char) :
    backslashes n ++ '\\' :: s = backslashes (n + 1) ++ s := by
  rw [backslashes, backslashes, List.replicate_succ', List.append_assoc]
  rfl

/-- The runs of a text make up that text. -/
theorem chars_read (run : Nat) (s : List Char) : (read run s).chars = backslashes run ++ s := by
  induction s generalizing run with
  | nil => simp [read, chars, endedChars]
  | cons c s ih =>
    by_cases h : c = '\\'
    · rw [read, dif_pos h, ih, h, backslashes_append_cons]
    · have hrest : (read 0 s).chars = s := ih 0
      rw [read, dif_neg h, chars, endedChars_cons, List.append_assoc, List.cons_append]
      exact congrArg (backslashes run ++ c :: ·) hrest

theorem read_backslashes_append (run n : Nat) (s : List Char) :
    read run (backslashes n ++ s) = read (run + n) s := by
  induction n generalizing run with
  | zero => rfl
  | succ n ih =>
    have hfirst : backslashes (n + 1) ++ s = '\\' :: (backslashes n ++ s) := rfl
    rw [hfirst, read, dif_pos rfl, ih, Nat.add_right_comm, Nat.add_assoc]

/-- No other runs make up the text. -/
theorem read_chars (runs : Runs) : read 0 runs.chars = runs := by
  obtain ⟨ended, last, hended⟩ := runs
  unfold chars
  dsimp only
  induction ended with
  | nil =>
    have h := read_backslashes_append 0 last []
    rw [List.append_nil, Nat.zero_add] at h
    exact h
  | cons run ended ih =>
    obtain ⟨n, c⟩ := run
    obtain ⟨hc, hended⟩ := List.forall_mem_cons.1 hended
    have hc' : c ≠ '\\' := hc
    rw [endedChars_cons, List.append_assoc, read_backslashes_append, List.cons_append, read,
      dif_neg hc']
    simp only [ih hended, Nat.zero_add]

theorem filter_backslashes (n : Nat) : (backslashes n).filter (· ≠ '\\') = [] :=
  List.filter_replicate_of_neg (by decide)

/-- The other characters are those that end runs. -/
theorem filter_chars (runs : Runs) :
    runs.chars.filter (· ≠ '\\') = runs.ended.map Prod.snd := by
  obtain ⟨ended, last, hended⟩ := runs
  unfold chars
  dsimp only
  rw [List.filter_append, filter_backslashes, List.append_nil]
  induction ended with
  | nil => rfl
  | cons run ended ih =>
    obtain ⟨n, c⟩ := run
    obtain ⟨hc, hended⟩ := List.forall_mem_cons.1 hended
    rw [endedChars_cons, List.filter_append, filter_backslashes, List.nil_append,
      List.filter_cons_of_pos (by simpa using hc), ih hended, List.map_cons]

/-- A text without a backslash at its end has no run there. -/
theorem last_read_eq_zero {s : List Char} (h : s.getLast? ≠ some '\\') : (read 0 s).last = 0 := by
  by_contra hlast
  obtain ⟨n, hn⟩ := Nat.exists_eq_succ_of_ne_zero hlast
  have hs : (read 0 s).chars = s := chars_read 0 s
  rw [chars, hn, backslashes, List.replicate_succ', ← List.append_assoc] at hs
  rw [← hs, List.getLast?_concat] at h
  exact h rfl

end Runs

open Runs

theorem unescapeColons_backslashes_append (n : Nat) {s : List Char} (hs : s.head? ≠ some ':') :
    unescapeColons (backslashes n ++ s) = backslashes n ++ unescapeColons s := by
  induction n with
  | zero => rfl
  | succ n ih =>
    have hfirst : (backslashes n ++ s).head? ≠ some ':' := by
      cases n with
      | zero => exact hs
      | succ n => simp [backslashes, List.replicate_succ]
    exact (unescapeColons_cons (.inr hfirst)).trans (congrArg ('\\' :: ·) ih)

/-- The last backslash before a colon goes with the first step. -/
theorem unescapeColons_backslashes_colon (n : Nat) (s : List Char) :
    unescapeColons (backslashes n ++ ':' :: s) =
      backslashes (n - 1) ++ ':' :: unescapeColons s := by
  cases n with
  | zero => exact unescapeColons_cons (.inl (by decide))
  | succ n =>
    rw [← backslashes_append_cons, unescapeColons_backslashes_append n (by simp)]
    rfl

theorem unescapeBackslashes_backslashes_append (n : Nat) {s : List Char}
    (hs : s.head? ≠ some '\\') :
    unescapeBackslashes (backslashes n ++ s) =
      backslashes ((n + 1) / 2) ++ unescapeBackslashes s := by
  induction n using Nat.twoStepInduction with
  | zero => rfl
  | one => exact unescapeBackslashes_cons (.inr hs)
  | more n ih =>
    have hhalf : (n + 2 + 1) / 2 = (n + 1) / 2 + 1 := by omega
    rw [hhalf]
    exact congrArg ('\\' :: ·) ih

/-- A run and the character after it, by themselves. -/
theorem unescapeChars_run_append (n : Nat) {c : Char} (hc : c ≠ '\\') (s : List Char) :
    unescapeChars (backslashes n ++ c :: s) = endedChars [halve (n, c)] ++ unescapeChars s := by
  have hfirst : unescapeColons (backslashes n ++ c :: s) =
      backslashes (if c = ':' then n - 1 else n) ++ c :: unescapeColons s := by
    by_cases hcolon : c = ':'
    · rw [hcolon, unescapeColons_backslashes_colon, if_pos rfl]
    · rw [unescapeColons_backslashes_append n (by simpa using hcolon),
        unescapeColons_cons (.inl hc), if_neg hcolon]
  have hcount : ((if c = ':' then n - 1 else n) + 1) / 2 = (halve (n, c)).1 := by
    unfold halve
    split <;> omega
  rw [unescapeChars, hfirst, unescapeBackslashes_backslashes_append _ (by simpa using hc), hcount,
    unescapeBackslashes_cons (.inl hc)]
  simp [endedChars, halve, unescapeChars]

/-- What comes after ended runs makes no difference to them, nor they to it. -/
theorem unescapeChars_endedChars_append {ended : List (Nat × Char)}
    (h : ∀ run ∈ ended, run.2 ≠ '\\') (s : List Char) :
    unescapeChars (endedChars ended ++ s) = endedChars (ended.map halve) ++ unescapeChars s := by
  induction ended with
  | nil => rfl
  | cons run ended ih =>
    obtain ⟨n, c⟩ := run
    obtain ⟨hc, hended⟩ := List.forall_mem_cons.1 h
    rw [endedChars_cons, List.append_assoc, List.cons_append, unescapeChars_run_append n hc,
      ih hended, ← List.append_assoc, endedChars, endedChars, ← List.flatMap_append]
    rfl

theorem unescapeChars_chars (runs : Runs) : unescapeChars runs.chars = runs.halved.chars := by
  have hlast : unescapeChars (backslashes runs.last) = backslashes ((runs.last + 1) / 2) := by
    have hcolons := unescapeColons_backslashes_append runs.last (s := []) (by simp)
    have hbackslashes := unescapeBackslashes_backslashes_append runs.last (s := []) (by simp)
    simp only [List.append_nil, unescapeColons, unescapeBackslashes] at hcolons hbackslashes
    rw [unescapeChars, hcolons, hbackslashes]
  rw [chars, unescapeChars_endedChars_append runs.ends_run, hlast]
  rfl

theorem unescapeChars_eq (s : List Char) : unescapeChars s = (Runs.read 0 s).halved.chars := by
  rw [← unescapeChars_chars, chars_read]
  rfl

/-- A text that ends in no backslash leaves the one after it alone. -/
theorem unescapeChars_append_of_getLast? {s : List Char} (h : s.getLast? ≠ some '\\')
    (t : List Char) : unescapeChars (s ++ t) = unescapeChars s ++ unescapeChars t := by
  have hs : endedChars (Runs.read 0 s).ended = s := by
    have hchars : (Runs.read 0 s).chars = s := chars_read 0 s
    rwa [chars, last_read_eq_zero h, backslashes, List.replicate_zero, List.append_nil] at hchars
  have hrun := unescapeChars_endedChars_append (Runs.read 0 s).ends_run
  have hfirst := hrun []
  rw [List.append_nil, hs] at hfirst
  have hboth := hrun t
  rw [hs] at hboth
  rw [hboth, hfirst]
  simp [unescapeChars, unescapeColons, unescapeBackslashes]

theorem sublist_unescapeColons (s : List Char) : (unescapeColons s).Sublist s := by
  fun_induction unescapeColons s with
  | case1 rest ih => exact (ih.cons_cons ':').cons '\\'
  | case2 c rest _ ih => exact ih.cons_cons c
  | case3 => exact .slnil

theorem sublist_unescapeBackslashes (s : List Char) : (unescapeBackslashes s).Sublist s := by
  fun_induction unescapeBackslashes s with
  | case1 rest ih => exact (ih.cons_cons '\\').cons '\\'
  | case2 c rest _ ih => exact ih.cons_cons c
  | case3 => exact .slnil

theorem sublist_unescapeChars (s : List Char) : (unescapeChars s).Sublist s :=
  (sublist_unescapeBackslashes _).trans (sublist_unescapeColons s)

theorem utf8ByteSize_unescape_le (text : String) :
    (unescape text).utf8ByteSize ≤ text.utf8ByteSize := by
  have hsublist := (sublist_unescapeChars text.toList).flatMap String.utf8EncodeChar
  have hsize := utf8ByteSize_ofList text.toList
  rw [String.ofList_toList] at hsize
  rw [unescape, utf8ByteSize_ofList, hsize]
  exact hsublist.length_le

/-- Escapes are removed in one pass. The runs of backslashes in a text are found by reading it once,
and there is no other way to take it for runs; each of them is halved, and the characters between
them stay. -/
theorem unescape_run_by_run :
    (∀ text, unescape text = String.ofList (Runs.read 0 text.toList).halved.chars ∧
      (unescape text).toList.filter (· ≠ '\\') = text.toList.filter (· ≠ '\\') ∧
      (unescape text = "" → text = "") ∧ (unescape text).length ≤ text.length ∧
      (unescape text).utf8ByteSize ≤ text.utf8ByteSize ∧
      ('\\' ∉ text.toList → unescape text = text)) ∧
    (∀ s, (Runs.read 0 s).chars = s) ∧ (∀ runs : Runs, Runs.read 0 runs.chars = runs) ∧
    ∀ x y, x.toList.getLast? ≠ some '\\' → unescape (x ++ y) = unescape x ++ unescape y := by
  have htoList (text : String) : (unescape text).toList = unescapeChars text.toList := by
    rw [unescape, String.toList_ofList]
  refine ⟨fun text => ⟨?_, ?_, ?_, ?_, utf8ByteSize_unescape_le text, ?_⟩, chars_read 0,
    read_chars, ?_⟩
  · rw [unescape, unescapeChars_eq]
  · have hruns : (Runs.read 0 text.toList).chars = text.toList := chars_read 0 _
    rw [htoList, unescapeChars_eq, filter_chars]
    conv_rhs => rw [← hruns, filter_chars]
    simp [halved, halve]
  · intro hempty
    by_contra hne
    have hchars : text.toList ≠ [] := by simpa using hne
    have hnonempty := unescape_ofList_ne_empty hchars
    rw [String.ofList_toList] at hnonempty
    exact hnonempty hempty
  · rw [← String.length_toList, ← String.length_toList, htoList]
    exact (sublist_unescapeChars text.toList).length_le
  · intro hbackslash
    have hplain := unescapeChars_append hbackslash []
    rw [List.append_nil] at hplain
    rw [← String.toList_inj, htoList, hplain]
    exact List.append_nil _
  · intro x y hx
    rw [← String.toList_inj, String.toList_append, htoList, htoList, htoList,
      String.toList_append, unescapeChars_append_of_getLast? hx]

theorem unescape_run_by_run_mixed :
    let plain := "é:名"
    let x := "a\\\\\\:\\\\\\é"
    let y := "\\:\\\\"
    '\\' ∉ plain.toList ∧ x.toList.getLast? ≠ some '\\' ∧ unescape plain = plain ∧
      unescape (x ++ y) = unescape x ++ unescape y ∧ unescape x = "a\\:\\\\é" ∧
      unescape y = ":\\" := by
  intro plain x y
  have hplain : '\\' ∉ plain.toList := by decide
  have hx : x.toList.getLast? ≠ some '\\' := by decide
  obtain ⟨hall, -, -, happend⟩ := unescape_run_by_run
  obtain ⟨-, -, -, -, -, hsame⟩ := hall plain
  exact ⟨hplain, hx, hsame hplain, happend x y hx, by decide, by decide⟩

end WorkflowPod.Path.Reference
