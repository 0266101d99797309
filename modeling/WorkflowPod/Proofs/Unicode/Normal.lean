import Mathlib.Data.List.Chain
import WorkflowPod.Proofs.Unicode.Decomposition

/-!
Composed normal form. Main statements: a text in normal form is its own normal form, and the texts
on both sides of a character that never combines are brought to it each for itself.
-/
namespace WorkflowPod.Unicode

open Table

theorem isWide_combiningClasses : isWide combiningClasses.runs.toList = true := by
  unfold combiningClasses
  apply Spelled.check
  · repeat constructor
  · decide +kernel

/-- Reversed text in which each mark stands after those of lower classes. -/
def IsOrdered (text : List Char) : Prop :=
  text.IsChain fun c d => combiningClass c = 0 ∨ combiningClass d ≤ combiningClass c

/-- The characters of a text put one by one after reversed text. -/
def arrange (before s : List Char) : List Char := s.foldl (fun before c => insertMark c before) before

theorem arrange_append (before s t : List Char) :
    arrange before (s ++ t) = arrange (arrange before s) t := List.foldl_append

theorem decomposed_eq (s : List Char) :
    decomposed s = (arrange [] (s.flatMap (decompose 4))).reverse := rfl

theorem insertMark_of_isOrdered {c : Char} {before : List Char} (h : IsOrdered (c :: before)) :
    insertMark c before = c :: before := by
  cases before with
  | nil => rfl
  | cons d before =>
    have hclass := (List.isChain_cons_cons.mp h).1
    rw [insertMark, if_neg]
    omega

theorem mem_insertMark {c d : Char} {before : List Char} :
    d ∈ insertMark c before ↔ d = c ∨ d ∈ before := by
  induction before with
  | nil => simp [insertMark]
  | cons e before ih =>
    rw [insertMark]
    split
    · rw [List.mem_cons, ih, List.mem_cons]
      exact or_left_comm
    · rw [List.mem_cons]

theorem mem_arrange {before s : List Char} {c : Char} :
    c ∈ arrange before s ↔ c ∈ s ∨ c ∈ before := by
  induction s generalizing before with
  | nil => simp [arrange]
  | cons d s ih =>
    rw [arrange, List.foldl_cons, ← arrange, ih, mem_insertMark, List.mem_cons, or_left_comm,
      or_assoc]

theorem isOrdered_insertMark (c : Char) {before : List Char} (h : IsOrdered before) :
    IsOrdered (insertMark c before) := by
  induction before with
  | nil => exact List.isChain_singleton _
  | cons d before ih =>
    have hbefore := ih h.tail
    rw [insertMark]
    split
    · rename_i hclass
      cases before with
      | nil => exact List.isChain_cons_cons.mpr ⟨.inr (by omega), hbefore⟩
      | cons e before =>
        rw [insertMark] at hbefore ⊢
        split at hbefore
        · rename_i hlower
          rw [if_pos hlower]
          exact List.isChain_cons_cons.mpr ⟨(List.isChain_cons_cons.mp h).1, hbefore⟩
        · rename_i hlower
          rw [if_neg hlower]
          exact List.isChain_cons_cons.mpr ⟨.inr (by omega), hbefore⟩
    · rename_i hclass
      exact List.isChain_cons_cons.mpr ⟨by omega, h⟩

theorem isOrdered_arrange {before s : List Char} (h : IsOrdered before) :
    IsOrdered (arrange before s) := by
  induction s generalizing before with
  | nil => exact h
  | cons c s ih => exact ih (isOrdered_insertMark c h)

/-- It does not matter which of two marks of different classes comes first. -/
theorem insertMark_comm {a b : Char} (ha : combiningClass a ≠ 0) (hb : combiningClass b ≠ 0)
    (hne : combiningClass a ≠ combiningClass b) (before : List Char) :
    insertMark a (insertMark b before) = insertMark b (insertMark a before) := by
  induction before with
  | nil =>
    simp only [insertMark, ne_eq, ha, hb, not_false_eq_true, true_and]
    split_ifs <;> first | rfl | omega
  | cons d before ih =>
    simp only [insertMark, ne_eq, ha, hb, not_false_eq_true, true_and]
    split_ifs <;> simp only [insertMark, ne_eq, ha, hb, not_false_eq_true, true_and] <;>
      split_ifs <;> first | rfl | omega | rw [ih]

/-- A mark of a higher class can be put after others instead of before them. -/
theorem arrange_insertMark {c : Char} {marks : List Char} (hc : combiningClass c ≠ 0)
    (hmarks : ∀ m ∈ marks, combiningClass m ≠ 0 ∧ combiningClass m < combiningClass c)
    (before : List Char) :
    arrange (insertMark c before) marks = insertMark c (arrange before marks) := by
  induction marks generalizing before with
  | nil => rfl
  | cons m marks ih =>
    obtain ⟨hm, hlower⟩ := hmarks m List.mem_cons_self
    have hrest := ih (fun m hm => hmarks m (List.mem_cons_of_mem _ hm)) (insertMark m before)
    rw [arrange, List.foldl_cons, ← arrange, insertMark_comm hm hc (by omega), hrest]
    rfl

/-- The text composed so far. -/
def Composition.text (s : Composition) : List Char :=
  (s.marks ++ s.starter.toList ++ s.before).reverse

/-- The composition `s` of the reversed text `done` is taken apart into that text again. -/
structure Composes (s : Composition) (done : List Char) : Prop where
  arranges : arrange [] (s.text.flatMap (decompose 4)) = done
  marks : ∀ m ∈ s.marks, combiningClass m ≠ 0 ∧ parts? m = none
  /-- The last mark has the highest class. -/
  highest : ∀ m ∈ s.marks, ∀ last ∈ s.marks.head?, combiningClass m ≤ combiningClass last
  last : ∀ m ∈ s.marks, ∀ last ∈ done.head?, combiningClass m ≤ combiningClass last

/-- What the last starter and one more character are composed to, if they are. -/
def Composition.combined? (s : Composition) (c : Char) : Option Char :=
  let blocked := match s.marks with
    | [] => false
    | mark :: _ => combiningClass c ≤ combiningClass mark
  if blocked then none else s.starter.bind (composed? · c)

theorem Composition.push_eq (s : Composition) (c : Char) :
    s.push c = match s.combined? c with
      | some d => { s with starter := some d }
      | none =>
        if combiningClass c = 0 then ⟨s.marks ++ s.starter.toList ++ s.before, some c, []⟩
        else { s with marks := c :: s.marks } := rfl

theorem Composition.text_push {s : Composition} {c : Char} (h : s.combined? c = none) :
    (s.push c).text = s.text ++ [c] := by
  rw [push_eq, h]
  dsimp only
  split <;> simp [text]

/-- Marks before the character do not block it if they have lower classes. -/
theorem Composition.exists_of_combined? {s : Composition} {c d : Char}
    (h : s.combined? c = some d) :
    (∃ starter, s.starter = some starter ∧ composed? starter c = some d) ∧
      ∀ last ∈ s.marks.head?, combiningClass last < combiningClass c := by
  unfold combined? at h
  cases hmarks : s.marks with
  | nil =>
    rw [hmarks] at h
    exact ⟨Option.bind_eq_some_iff.mp h, by simp⟩
  | cons mark marks =>
    rw [hmarks] at h
    dsimp only at h
    split at h
    · cases h
    · rename_i hblocked
      refine ⟨Option.bind_eq_some_iff.mp h, fun last hlast => ?_⟩
      obtain rfl : mark = last := by simpa using hlast
      simpa using hblocked

theorem flatMap_decompose_of_forall {s : List Char} (h : ∀ c ∈ s, parts? c = none) :
    s.flatMap (decompose 4) = s := by
  induction s with
  | nil => rfl
  | cons c s ih =>
    have hs := ih fun d hd => h d (List.mem_cons_of_mem _ hd)
    rw [List.flatMap_cons, hs, decompose_of_parts?_eq_none (h c List.mem_cons_self),
      List.singleton_append]

namespace Composes

variable {s : Composition} {done : List Char} {c : Char}

theorem start : Composes ⟨[], none, []⟩ [] where
  arranges := rfl
  marks := by simp
  highest := by simp
  last := by simp

/-- A character that is put after the text. -/
theorem append (h : Composes s done) (hc : parts? c = none) (hdone : IsOrdered (c :: done))
    (hcombined : s.combined? c = none) :
    arrange [] ((s.push c).text.flatMap (decompose 4)) = c :: done := by
  rw [Composition.text_push hcombined, List.flatMap_append, arrange_append, h.arranges, List.flatMap_singleton,
    decompose_of_parts?_eq_none hc]
  exact insertMark_of_isOrdered hdone

theorem mem_done (h : Composes s done) {m : Char} (hm : m ∈ s.marks) : m ∈ done := by
  rw [← h.arranges, mem_arrange]
  refine .inl (List.mem_flatMap.mpr ⟨m, by simp [Composition.text, hm], ?_⟩)
  rw [decompose_of_parts?_eq_none (h.marks m hm).2]
  exact List.mem_singleton_self m

/-- A character that is put together with the last starter. The marks after that are in the order of
classes, so the character can be taken past them. -/
theorem combine {starter d : Char} (h : Composes s done) (hstarter : s.starter = some starter)
    (hd : composed? starter c = some d) (hdone : IsOrdered (c :: done))
    (hlower : ∀ m ∈ s.marks, combiningClass m < combiningClass c) :
    Composes { s with starter := some d } (c :: done) := by
  have hmarks : s.marks.reverse.flatMap (decompose 4) = s.marks.reverse :=
    flatMap_decompose_of_forall fun m hm => (h.marks m (List.mem_reverse.mp hm)).2
  generalize hbefore : arrange [] (s.before.reverse.flatMap (decompose 4)) = before
  have hold : arrange (arrange before (decompose 4 starter)) s.marks.reverse = done := by
    rw [← h.arranges, Composition.text, hstarter]
    simp [arrange_append, hmarks, hbefore]
  have hnew : arrange [] (({ s with starter := some d } : Composition).text.flatMap (decompose 4)) =
      arrange (insertMark c (arrange before (decompose 4 starter))) s.marks.reverse := by
    rw [Composition.text]
    simp [arrange_append, hmarks, hbefore, decompose_of_isComposed (isComposed_of_composed? hd)]
    rfl
  refine ⟨?_, h.marks, h.highest, fun m hm last hlast => ?_⟩
  · rw [hnew, ← insertMark_of_isOrdered hdone, ← hold]
    by_cases hempty : s.marks = []
    · rw [hempty]
      rfl
    · obtain ⟨m, marks, hcons⟩ := List.exists_cons_of_ne_nil hempty
      have hclass := hlower m (by simp [hcons])
      refine arrange_insertMark (by omega) (fun m hm => ?_) _
      rw [List.mem_reverse] at hm
      exact ⟨(h.marks m hm).1, hlower m hm⟩
  · obtain rfl : c = last := by simpa using hlast
    exact (hlower m hm).le

theorem push (h : Composes s done) (hc : parts? c = none) (hdone : IsOrdered (c :: done)) :
    Composes (s.push c) (c :: done) := by
  cases hcombined : s.combined? c with
  | some d =>
    obtain ⟨⟨starter, hstarter, hd⟩, hunblocked⟩ := Composition.exists_of_combined? hcombined
    have hlower : ∀ m ∈ s.marks, combiningClass m < combiningClass c := by
      intro m hm
      obtain ⟨last, marks, hmarks⟩ := List.exists_cons_of_ne_nil (List.ne_nil_of_mem hm)
      have hlast := hunblocked last (by simp [hmarks])
      have hle := h.highest m hm last (by simp [hmarks])
      omega
    rw [Composition.push_eq, hcombined]
    exact h.combine hstarter hd hdone hlower
  | none =>
    have happend := h.append hc hdone hcombined
    rw [Composition.push_eq, hcombined] at happend ⊢
    dsimp only at happend ⊢
    split at happend
    · rename_i hclass
      rw [if_pos hclass]
      exact ⟨happend, by simp, by simp, by simp⟩
    · rename_i hclass
      have hle : ∀ m ∈ s.marks, combiningClass m ≤ combiningClass c := by
        intro m hm
        obtain ⟨last, rest, hcons⟩ := List.exists_cons_of_ne_nil (List.ne_nil_of_mem (h.mem_done hm))
        have hlast := h.last m hm last (by simp [hcons])
        rw [hcons] at hdone
        have horder := (List.isChain_cons_cons.mp hdone).1
        omega
      rw [if_neg hclass]
      refine ⟨happend, ?_, ?_, ?_⟩
      · exact List.forall_mem_cons.mpr ⟨⟨hclass, hc⟩, h.marks⟩
      · intro m hm last hlast
        obtain rfl : c = last := by simpa using hlast
        obtain rfl | hm := List.mem_cons.mp hm
        · exact Nat.le_refl _
        · exact hle m hm
      · intro m hm last hlast
        obtain rfl : c = last := by simpa using hlast
        obtain rfl | hm := List.mem_cons.mp hm
        · exact Nat.le_refl _
        · exact hle m hm

/-- Composing all of a text that is taken apart. -/
theorem foldl (h : Composes s done) {rest : List Char} (hrest : ∀ c ∈ rest, parts? c = none)
    (hordered : IsOrdered (rest.reverse ++ done)) :
    Composes (rest.foldl Composition.push s) (rest.reverse ++ done) := by
  induction rest generalizing s done with
  | nil => exact h
  | cons c rest ih =>
    rw [List.reverse_cons, List.append_assoc, List.singleton_append] at hordered ⊢
    have hdone : IsOrdered (c :: done) := hordered.right_of_append
    exact ih (h.push (hrest c List.mem_cons_self) hdone)
      (fun d hd => hrest d (List.mem_cons_of_mem _ hd)) hordered

end Composes

theorem parts?_of_mem_decomposed {s : List Char} {c : Char} (h : c ∈ decomposed s) :
    parts? c = none := by
  rw [decomposed_eq, List.mem_reverse, mem_arrange] at h
  obtain h | h := h
  · obtain ⟨d, -, hc⟩ := List.mem_flatMap.mp h
    exact parts?_of_mem_decompose (isShallow d).succ hc
  · exact absurd h List.not_mem_nil

/-- What all of a text is composed to. -/
def compose (s : List Char) : Composition := s.foldl Composition.push ⟨[], none, []⟩

theorem normalize_eq (s : List Char) : normalize s = (compose (decomposed s)).text := rfl

/-- A normal form is taken apart into the same characters as the text. -/
theorem decomposed_normalize (s : List Char) : decomposed (normalize s) = decomposed s := by
  have hordered : IsOrdered ((decomposed s).reverse ++ []) := by
    rw [List.append_nil, decomposed_eq, List.reverse_reverse]
    exact isOrdered_arrange .nil
  have hcomposes := Composes.start.foldl (fun c hc => parts?_of_mem_decomposed hc) hordered
  rw [decomposed_eq, normalize_eq, compose, hcomposes.arranges, List.append_nil,
    List.reverse_reverse]

/-- A normal form is its own normal form. -/
theorem normalize_normalize (s : List Char) : normalize (normalize s) = normalize s := by
  rw [normalize_eq (normalize s), decomposed_normalize, ← normalize_eq]

/-- What holds of the parts of a character with it, and of it with its parts, holds of the normal
form with the text. -/
theorem forall_mem_normalize {P : Char → Prop}
    (hparts : ∀ c a b, IsComposed c a b → P c → P a ∧ P b)
    (hcomposed : ∀ c a b, IsComposed c a b → P a → P b → P c) {s : List Char}
    (h : ∀ c ∈ s, P c) : ∀ c ∈ normalize s, P c := by
  have hdecomposed : ∀ c ∈ decomposed s, P c := by
    intro c hc
    rw [decomposed_eq, List.mem_reverse, mem_arrange] at hc
    obtain hc | hc := hc
    · obtain ⟨d, hd, hc⟩ := List.mem_flatMap.mp hc
      exact forall_mem_decompose hparts (h d hd) 4 c hc
    · exact absurd hc List.not_mem_nil
  have hpush (s : Composition) (c : Char) (hs : ∀ d ∈ s.text, P d) (hc : P c) :
      ∀ d ∈ (s.push c).text, P d := by
    cases hcombined : s.combined? c with
    | some e =>
      obtain ⟨⟨starter, hstarter, he⟩, -⟩ := Composition.exists_of_combined? hcombined
      simp only [Composition.text, List.mem_reverse, List.mem_append] at hs ⊢
      have hstarter : P starter := hs starter (by simp [hstarter])
      have he : P e := hcomposed e starter c (isComposed_of_composed? he) hstarter hc
      rw [Composition.push_eq, hcombined]
      rintro d ((hd | hd) | hd)
      · exact hs d (.inl (.inl hd))
      · obtain rfl : d = e := by simpa using hd
        exact he
      · exact hs d (.inr hd)
    | none =>
      rw [Composition.text_push hcombined]
      exact List.forall_mem_append.mpr ⟨hs, by simpa using hc⟩
  have hfold (rest : List Char) (s : Composition) (hs : ∀ d ∈ s.text, P d)
      (hrest : ∀ c ∈ rest, P c) : ∀ d ∈ (rest.foldl Composition.push s).text, P d := by
    induction rest generalizing s with
    | nil => exact hs
    | cons c rest ih =>
      exact ih _ (hpush s c hs (hrest c List.mem_cons_self))
        fun d hd => hrest d (List.mem_cons_of_mem _ hd)
  rw [normalize_eq]
  exact hfold _ _ (by simp [Composition.text]) hdecomposed

/-- Whether a character stays as it is, whatever comes before it. -/
structure IsInert (c : Char) : Prop where
  class_eq : combiningClass c = 0
  parts?_eq : parts? c = none
  composed?_eq : ∀ a, composed? a c = none

theorem isInert_of_plain {c : Char} (h : c.toNat < 0x80) : IsInert c where
  class_eq := by rw [combiningClass, find?_of_isWide isWide_combiningClasses h]; rfl
  parts?_eq := by
    refine parts?_eq_none ?_ (Bool.eq_false_iff.mpr fun hcovered => ?_)
    · simp only [isSyllable, Bool.and_eq_false_iff, decide_eq_false_iff_not]
      omega
    · obtain ⟨run, hrun, hfirst, -⟩ := testBit_covered.mp hcovered
      have hwide := (le_of_isAscending isAscending_compositions hrun).1
      omega
  composed?_eq a := by
    cases hcomposed : composed? a c with
    | none => rfl
    | some d =>
      have hwide := (isComposed_of_composed? hcomposed).wide_right
      omega

theorem insertMark_of_class_eq_zero {c : Char} (hc : combiningClass c = 0) (before : List Char) :
    insertMark c before = c :: before := by
  cases before with
  | nil => rfl
  | cons d before => rw [insertMark, if_neg fun h => h.1 hc]

theorem IsInert.combined?_eq {c : Char} (h : IsInert c) (s : Composition) : s.combined? c = none := by
  have hbind : s.starter.bind (composed? · c) = none := by
    cases s.starter with
    | none => rfl
    | some starter => exact h.composed?_eq starter
  rw [Composition.combined?, hbind, ite_self]

theorem IsInert.push_eq {c : Char} (h : IsInert c) (s : Composition) :
    s.push c = ⟨s.marks ++ s.starter.toList ++ s.before, some c, []⟩ := by
  rw [Composition.push_eq, h.combined?_eq, if_pos h.class_eq]

theorem decomposed_of_isInert {s : List Char} (h : ∀ c ∈ s, IsInert c) : decomposed s = s := by
  -- Nothing moves such a character.
  have harrange (before : List Char) : arrange before s = s.reverse ++ before := by
    induction s generalizing before with
    | nil => rfl
    | cons c s ih =>
      rw [arrange, List.foldl_cons, ← arrange,
        insertMark_of_class_eq_zero (h c List.mem_cons_self).class_eq,
        ih fun d hd => h d (List.mem_cons_of_mem _ hd)]
      simp
  rw [decomposed_eq, flatMap_decompose_of_forall fun c hc => (h c hc).parts?_eq, harrange,
    List.append_nil, List.reverse_reverse]

theorem normalize_of_isInert {s : List Char} (h : ∀ c ∈ s, IsInert c) : normalize s = s := by
  have hfold (composition : Composition) :
      (s.foldl Composition.push composition).text = composition.text ++ s := by
    induction s generalizing composition with
    | nil => simp
    | cons c s ih =>
      rw [List.foldl_cons, ih (fun d hd => h d (List.mem_cons_of_mem _ hd)),
        Composition.text_push ((h c List.mem_cons_self).combined?_eq _), List.append_assoc,
        List.singleton_append]
  rw [normalize_eq, decomposed_of_isInert h, compose, hfold]
  rfl

/-- Whether a character combines with none after it either. -/
structure IsSeparator (c : Char) : Prop extends IsInert c where
  composed?_left : ∀ b, composed? c b = none

theorem isSeparator_dot : IsSeparator '.' where
  toIsInert := isInert_of_plain (by decide)
  composed?_left b := by
    cases hcomposed : composed? '.' b with
    | none => rfl
    | some d => exact absurd rfl (isComposed_of_composed? hcomposed).left_ne_dot

/-- Normal forms have no dot that the text does not have. -/
theorem dot_not_mem_normalize {s : List Char} (h : '.' ∉ s) : '.' ∉ normalize s := by
  have hplain {c : Char} (hc : 0x80 ≤ c.toNat) : c ≠ '.' := by
    rintro rfl
    exact absurd hc (by decide)
  have hne : ∀ c ∈ normalize s, c ≠ '.' :=
    forall_mem_normalize (fun c a b hcomposed _ => ⟨hcomposed.left_ne_dot, hplain hcomposed.wide_right⟩)
      (fun c a b hcomposed _ _ => hplain hcomposed.wide) fun c hc heq => h (heq ▸ hc)
  exact fun hmem => hne _ hmem rfl

variable {x : Char}

theorem insertMark_append_cons (hx : combiningClass x = 0) (c : Char) (later earlier : List Char) :
    insertMark c (later ++ x :: earlier) = insertMark c later ++ x :: earlier := by
  induction later with
  | nil =>
    have hclass : ¬(combiningClass c ≠ 0 ∧ combiningClass c < combiningClass x) := by omega
    have hinsert : insertMark c (x :: earlier) = c :: x :: earlier := by
      rw [insertMark, if_neg hclass]
    exact hinsert
  | cons d later ih =>
    rw [List.cons_append, insertMark, insertMark, ih]
    split <;> rfl

theorem arrange_append_cons (hx : combiningClass x = 0) (s later earlier : List Char) :
    arrange (later ++ x :: earlier) s = arrange later s ++ x :: earlier := by
  induction s generalizing later with
  | nil => rfl
  | cons c s ih =>
    rw [arrange, List.foldl_cons, ← arrange, insertMark_append_cons hx, ih]
    rfl

theorem decomposed_append_cons (hx : IsInert x) (s t : List Char) :
    decomposed (s ++ x :: t) = decomposed s ++ x :: decomposed t := by
  have hseparated := arrange_append_cons hx.class_eq (t.flatMap (decompose 4)) []
    (arrange [] (s.flatMap (decompose 4)))
  rw [List.nil_append] at hseparated
  rw [decomposed_eq, List.flatMap_append, List.flatMap_cons,
    decompose_of_parts?_eq_none hx.parts?_eq, arrange_append, List.singleton_append, arrange,
    List.foldl_cons, insertMark_of_class_eq_zero hx.class_eq, ← arrange, hseparated,
    List.reverse_append, List.reverse_cons, List.append_assoc]
  rfl

/-- The composition `t'` goes on as `t` does, after `x` and the text before that. -/
structure Continues (before : List Char) (x : Char) (t t' : Composition) : Prop where
  marks : t'.marks = t.marks
  starter : (t.starter = none ∧ t.before = [] ∧ t'.starter = some x ∧ t'.before = before) ∨
    ∃ starter, t.starter = some starter ∧ t'.starter = some starter ∧
      t'.before = t.before ++ x :: before

namespace Continues

variable {before : List Char} {t t' : Composition}

theorem text_eq (h : Continues before x t t') : t'.text = before.reverse ++ x :: t.text := by
  obtain ⟨hmarks, ⟨hstarter, hbefore, hstarter', hbefore'⟩ |
    ⟨starter, hstarter, hstarter', hbefore'⟩⟩ := h <;>
    simp [Composition.text, *]

theorem combined?_eq (h : Continues before x t t') (hx : IsSeparator x) (c : Char) :
    t'.combined? c = t.combined? c := by
  have hbind : t'.starter.bind (composed? · c) = t.starter.bind (composed? · c) := by
    obtain ⟨hstarter, -, hstarter', -⟩ | ⟨starter, hstarter, hstarter', -⟩ := h.starter
    · rw [hstarter, hstarter']
      exact hx.composed?_left c
    · rw [hstarter, hstarter']
  rw [Composition.combined?, Composition.combined?, h.marks, hbind]

theorem push (h : Continues before x t t') (hx : IsSeparator x) (c : Char) :
    Continues before x (t.push c) (t'.push c) := by
  rw [Composition.push_eq, Composition.push_eq, h.combined?_eq hx]
  cases hcombined : t.combined? c with
  | some d =>
    refine ⟨h.marks, .inr ⟨d, rfl, rfl, ?_⟩⟩
    obtain ⟨⟨starter, hstarter, -⟩, -⟩ := Composition.exists_of_combined? hcombined
    obtain ⟨hnone, -⟩ | ⟨_, -, -, hbefore⟩ := h.starter
    · rw [hnone] at hstarter
      cases hstarter
    · exact hbefore
  | none =>
    dsimp only
    split
    · refine ⟨rfl, .inr ⟨c, rfl, rfl, ?_⟩⟩
      obtain ⟨hstarter, hbefore, hstarter', hbefore'⟩ | ⟨starter, hstarter, hstarter', hbefore'⟩ :=
        h.starter <;> simp [h.marks, *]
    · exact ⟨congrArg (c :: ·) h.marks, h.starter⟩

theorem foldl (h : Continues before x t t') (hx : IsSeparator x) (s : List Char) :
    Continues before x (s.foldl Composition.push t) (s.foldl Composition.push t') := by
  induction s generalizing t t' with
  | nil => exact h
  | cons c s ih => exact ih (h.push hx c)

end Continues

theorem normalize_append_cons (hx : IsSeparator x) (s t : List Char) :
    normalize (s ++ x :: t) = normalize s ++ x :: normalize t := by
  generalize hleft : compose (decomposed s) = left
  have hstart : Continues (left.marks ++ left.starter.toList ++ left.before) x ⟨[], none, []⟩
      (left.push x) := by
    rw [hx.push_eq]
    exact ⟨rfl, .inl ⟨rfl, rfl, rfl, rfl⟩⟩
  have htext := (hstart.foldl hx (decomposed t)).text_eq
  rw [normalize_eq, normalize_eq, normalize_eq, decomposed_append_cons hx.toIsInert, compose,
    List.foldl_append, List.foldl_cons, ← compose, hleft, htext]
  rfl

theorem normalize_intercalate (hx : IsSeparator x) (pieces : List (List Char)) :
    normalize ([x].intercalate pieces) = [x].intercalate (pieces.map normalize) := by
  induction pieces with
  | nil => rfl
  | cons piece rest ih =>
    cases rest with
    | nil => rw [List.map_singleton, List.intercalate_singleton, List.intercalate_singleton]
    | cons next rest =>
      rw [List.map_cons] at ih
      simp only [List.map_cons, List.intercalate_cons_cons, List.append_assoc,
        List.singleton_append, normalize_append_cons hx, ih]

end WorkflowPod.Unicode
