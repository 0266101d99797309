import Mathlib.Data.List.DropRight
import WorkflowPod.Text.Blank

/-! Splitting a text at a character, and trimming it. -/
namespace WorkflowPod.Text

variable {s : List Char} {x : Char}

/-- No piece has the character that separates them. -/
theorem not_mem_of_mem_splitOn {piece : List Char} (h : piece ∈ s.splitOn x) : x ∉ piece := by
  rw [List.splitOn] at h
  induction s generalizing piece with
  | nil => simp_all
  | cons c s ih =>
    rw [List.splitOnP_cons_eq_if_modifyHead] at h
    split at h
    · obtain rfl | h := List.mem_cons.mp h
      · exact List.not_mem_nil
      · exact ih h
    · rename_i hc
      obtain ⟨first, rest, hsplit⟩ := List.exists_cons_of_ne_nil (List.splitOnP_ne_nil (· == x) s)
      rw [hsplit, List.modifyHead_cons] at h
      obtain rfl | h := List.mem_cons.mp h
      · have hfirst : x ∉ first := ih (by rw [hsplit]; exact List.mem_cons_self)
        have hx : x ≠ c := fun heq => hc (by simp [heq])
        simp [hx, hfirst]
      · exact ih (by rw [hsplit]; exact List.mem_cons_of_mem _ h)

/-- What the pieces are made of stands in the text. -/
theorem mem_of_mem_splitOn {piece : List Char} (h : piece ∈ s.splitOn x) {c : Char}
    (hc : c ∈ piece) : c ∈ s := by
  have hs : [x].intercalate (s.splitOn x) = s := List.intercalate_splitOn x
  rw [← hs]
  generalize s.splitOn x = pieces at h
  clear hs
  induction pieces with
  | nil => simp at h
  | cons first rest ih =>
    cases rest with
    | nil =>
      obtain rfl := List.mem_singleton.mp h
      rwa [List.intercalate_singleton]
    | cons second rest =>
      rw [List.intercalate_cons_cons]
      obtain rfl | h := List.mem_cons.mp h
      · simp [hc]
      · exact List.mem_append_right _ (ih h)

theorem mem_intercalate {pieces : List (List Char)} {c : Char} (h : c ∈ [x].intercalate pieces) :
    c = x ∨ ∃ piece ∈ pieces, c ∈ piece := by
  induction pieces with
  | nil => simp at h
  | cons first rest ih =>
    cases rest with
    | nil =>
      rw [List.intercalate_singleton] at h
      exact .inr ⟨first, List.mem_cons_self, h⟩
    | cons second rest =>
      rw [List.intercalate_cons_cons, List.mem_append, List.mem_append, List.mem_singleton] at h
      obtain (h | h) | h := h
      · exact .inr ⟨first, List.mem_cons_self, h⟩
      · exact .inl h
      · obtain h | ⟨piece, hpiece, hc⟩ := ih h
        · exact .inl h
        · exact .inr ⟨piece, List.mem_cons_of_mem _ hpiece, hc⟩

/-- Pieces that each end with a separator, and one more, are the text of all of them. -/
theorem flatMap_append_eq_intercalate (pieces : List (List Char)) (last : List Char) :
    pieces.flatMap (· ++ [x]) ++ last = [x].intercalate (pieces ++ [last]) := by
  induction pieces with
  | nil => simp
  | cons piece pieces ih =>
    rw [List.flatMap_cons, List.append_assoc, ih, List.cons_append]
    cases pieces with
    | nil => simp
    | cons next rest => simp [List.intercalate_cons_cons]

/-- A character of the text separates pieces or is in one of them. -/
theorem eq_or_exists_mem_splitOn {c : Char} (h : c ∈ s) :
    c = x ∨ ∃ piece ∈ s.splitOn x, c ∈ piece := by
  have hs : [x].intercalate (s.splitOn x) = s := List.intercalate_splitOn x
  rw [← hs] at h
  exact mem_intercalate h

theorem dropTailWhile_eq_self {p : Char → Bool} (h : ∀ c ∈ s.getLast?, p c = false) :
    dropTailWhile p s = s := by
  refine List.rdropWhile_eq_self_iff.2 fun hne => ?_
  simpa using h _ (List.getLast?_eq_some_getLast hne)

theorem dropTailWhile_append {p : Char → Bool} (h : dropTailWhile p s = s) (rest : List Char) :
    dropTailWhile p (s ++ rest) = s ++ dropTailWhile p rest := by
  unfold dropTailWhile at h ⊢
  rw [List.reverse_append, List.dropWhile_append]
  split
  · rename_i hempty
    rw [h, List.isEmpty_iff.mp hempty, List.reverse_nil, List.append_nil]
  · rw [List.reverse_append, List.reverse_reverse]

/-- Trimming takes blanks away from both ends. -/
theorem exists_eq_append_trim (s : List Char) :
    ∃ before after, s = before ++ trim s ++ after ∧ ∀ c ∈ before ++ after, isBlank c = true := by
  have hleft : s.takeWhile isBlank ++ s.dropWhile isBlank = s := List.takeWhile_append_dropWhile
  have hright : trim s ++ (s.dropWhile isBlank).rtakeWhile isBlank = s.dropWhile isBlank :=
    List.rdropWhile_append_rtakeWhile
  refine ⟨s.takeWhile isBlank, (s.dropWhile isBlank).rtakeWhile isBlank, ?_, ?_⟩
  · rw [List.append_assoc, hright, hleft]
  · intro c hc
    rcases List.mem_append.1 hc with hc | hc
    · exact List.mem_takeWhile_imp hc
    · exact List.mem_rtakeWhile_imp hc

/-- Blanks around a text without blanks are what trimming takes away. -/
theorem trim_append {before after : List Char} (hblank : ∀ c ∈ before ++ after, isBlank c = true)
    (hs : ∀ c ∈ s, isBlank c = false) : trim (before ++ s ++ after) = s := by
  obtain ⟨hbefore, hafter⟩ := List.forall_mem_append.1 hblank
  have hright : dropTailWhile isBlank after = [] := List.rdropWhile_eq_nil_iff.2 hafter
  have hself : dropTailWhile isBlank s = s :=
    dropTailWhile_eq_self fun c hc => hs c (List.mem_of_getLast? hc)
  rw [trim, List.append_assoc, List.dropWhile_append_of_pos hbefore]
  cases s with
  | nil => rw [List.nil_append, List.dropWhile_eq_nil_iff.2 hafter]; rfl
  | cons c s =>
    have hc : ¬isBlank c = true := by simp [hs c List.mem_cons_self]
    rw [List.cons_append, List.dropWhile_cons_of_neg hc, ← List.cons_append,
      dropTailWhile_append hself, hright, List.append_nil]

end WorkflowPod.Text
