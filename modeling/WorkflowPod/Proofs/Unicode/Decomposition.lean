import WorkflowPod.Proofs.Unicode.Table
import WorkflowPod.Unicode.Normal

/-!
How characters are taken apart and put together. Putting two together is undone by taking apart, the
second of two parts has no parts itself, and no character has more than four layers.
-/
namespace WorkflowPod.Unicode

open Table

theorem toNat_ofNat {n : Nat} (h : n.isValidChar) : (Char.ofNat n).toNat = n := by
  rw [Char.ofNat, dif_pos h]
  rfl

/-- A number that stands for no character becomes the first one. -/
theorem toNat_ofNat_eq_or (n : Nat) : (Char.ofNat n).toNat = n ∨ (Char.ofNat n).toNat = 0 := by
  by_cases h : n.isValidChar
  · exact .inl (toNat_ofNat h)
  · simp [Char.ofNat, h]

/-- The numbers of Hangul syllables. -/
def isSyllable (n : Nat) : Bool := 0xAC00 ≤ n && n ≤ 0xD7A3

/-- Whether runs come in order, from a number on. -/
def isAscending : (first : Nat) → List Run → Bool
  | _, [] => true
  | first, run :: runs =>
    decide (first ≤ run.first) && decide (run.first ≤ run.last) && isAscending (run.last + 1) runs

/-- Whether a run is a composed character with two parts, the second of them not composed. -/
def isComposition (composed : Nat) (run : Run) : Bool :=
  match run.values with
  | [a, b] =>
    run.first == run.last && decide run.first.isValidChar && decide a.isValidChar &&
      decide b.isValidChar && !isSyllable run.first && !isSyllable a && !isSyllable b &&
      a != '.'.toNat && decide (0x80 ≤ b) && isClear composed b 1
  | _ => false

/-- The composed characters whose first part has more than `depth` layers. -/
def layered (runs : List Run) : (depth : Nat) → Nat
  | 0 => covered runs
  | depth + 1 => covered (runs.filter fun run => (layered runs depth).testBit run.value)

/-- What the table of compositions keeps to. The letters of Hangul are not in it. -/
def isSound (runs : List Run) : Bool :=
  isAscending 0x80 runs && runs.all (isComposition (covered runs)) &&
    isClear (covered runs) 0x1100 0x100 && layered runs 3 == 0

theorem isSound_compositions : isSound compositions.runs.toList = true := by
  unfold compositions
  apply Spelled.check
  · repeat constructor
  · decide +kernel

theorem isAscending_compositions : isAscending 0x80 compositions.runs.toList = true := by
  have hsound := isSound_compositions
  simp only [isSound, Bool.and_eq_true] at hsound
  exact hsound.1.1.1

theorem le_of_isAscending {first : Nat} {runs : List Run} (h : isAscending first runs = true)
    {run : Run} (hrun : run ∈ runs) : first ≤ run.first ∧ run.first ≤ run.last := by
  induction runs generalizing first with
  | nil => exact absurd hrun List.not_mem_nil
  | cons other runs ih =>
    simp only [isAscending, Bool.and_eq_true, decide_eq_true_eq] at h
    obtain rfl | hrun := List.mem_cons.mp hrun
    · exact h.1
    · have hle := ih h.2 hrun
      omega

/-- Runs in order have no code point in common. -/
theorem eq_of_isAscending {first : Nat} {runs : List Run} (h : isAscending first runs = true)
    {run other : Run} (hrun : run ∈ runs) (hother : other ∈ runs) {n : Nat}
    (hn : run.first ≤ n ∧ n ≤ run.last) (hn' : other.first ≤ n ∧ n ≤ other.last) :
    run = other := by
  induction runs generalizing first with
  | nil => exact absurd hrun List.not_mem_nil
  | cons head runs ih =>
    simp only [isAscending, Bool.and_eq_true, decide_eq_true_eq] at h
    obtain hhead | hlater := List.mem_cons.mp hrun <;>
      obtain hhead' | hlater' := List.mem_cons.mp hother
    · rw [hhead, hhead']
    · have hle := le_of_isAscending h.2 hlater'
      rw [hhead] at hn
      omega
    · have hle := le_of_isAscending h.2 hlater
      rw [hhead'] at hn'
      omega
    · exact ih h.2 hlater hlater'

/-- A run of the table: a character and the two it is composed of. -/
structure IsListed (c a b : Nat) : Prop where
  run : ∃ run ∈ compositions.runs.toList, run.first = c ∧ run.last = c ∧ run.values = [a, b]
  wide : 0x80 ≤ c
  valid : c.isValidChar
  valid_left : a.isValidChar
  valid_right : b.isValidChar
  not_syllable : isSyllable c = false
  not_syllable_left : isSyllable a = false
  not_syllable_right : isSyllable b = false
  left_ne : a ≠ '.'.toNat
  wide_right : 0x80 ≤ b
  not_composed_right : (covered compositions.runs.toList).testBit b = false

theorem exists_isListed {run : Run} (hrun : run ∈ compositions.runs.toList) :
    ∃ a b, IsListed run.first a b ∧ run.last = run.first ∧ run.values = [a, b] := by
  have hsound := isSound_compositions
  simp only [isSound, Bool.and_eq_true, List.all_eq_true] at hsound
  have hwide := (le_of_isAscending hsound.1.1.1 hrun).1
  have hcheck := hsound.1.1.2 run hrun
  unfold isComposition at hcheck
  split at hcheck
  · rename_i a b hvalues
    simp only [Bool.and_eq_true, beq_iff_eq, decide_eq_true_eq, Bool.not_eq_true', bne_iff_ne] at hcheck
    obtain ⟨⟨⟨⟨⟨⟨⟨⟨⟨hlast, hvalid⟩, ha⟩, hb⟩, hs⟩, hsa⟩, hsb⟩, hdot⟩, hwideb⟩, hclear⟩ := hcheck
    have hright := testBit_of_isClear hclear (Nat.le_refl b) (Nat.lt_succ_self b)
    exact ⟨a, b, ⟨⟨run, hrun, rfl, hlast.symm, hvalues⟩, hwide, hvalid, ha, hb, hs, hsa, hsb, hdot,
      hwideb, hright⟩, hlast.symm, hvalues⟩
  · cases hcheck

theorem IsListed.find? {c a b : Nat} (h : IsListed c a b) :
    compositions.find? c = some ⟨c, c, [a, b]⟩ := by
  obtain ⟨run, hrun, hfirst, hlast, hvalues⟩ := h.run
  have hsome : (compositions.find? c).isSome = true := by
    refine Array.find?_isSome.mpr ⟨run, Array.mem_toList_iff.mp hrun, ?_⟩
    simp [hfirst, hlast]
  obtain ⟨found, hfound⟩ := Option.isSome_iff_exists.mp hsome
  obtain ⟨hmem, hin⟩ := mem_of_find? hfound
  obtain rfl : run = found :=
    eq_of_isAscending isAscending_compositions hrun hmem (by omega) hin
  rw [hfound, ← hfirst, ← hvalues]
  obtain ⟨first, last, values⟩ := run
  simp_all

/-- What `c` is composed of. -/
inductive IsComposed (c a b : Char) : Prop where
  /-- A syllable of two letters. -/
  | pair (l v : Nat) (hl : l < 19) (hv : v < 21) (hc : c.toNat = 0xAC00 + (l * 21 + v) * 28)
      (ha : a.toNat = 0x1100 + l) (hb : b.toNat = 0x1161 + v)
  /-- A syllable of two letters and one more letter. -/
  | closed (s t : Nat) (hs : s < 399) (hpos : 0 < t) (ht : t < 28)
      (hc : c.toNat = 0xAC00 + s * 28 + t) (ha : a.toNat = 0xAC00 + s * 28)
      (hb : b.toNat = 0x11A7 + t)
  | listed (h : IsListed c.toNat a.toNat b.toNat)

namespace IsComposed

variable {c a b : Char} (h : IsComposed c a b)
include h

theorem wide : 0x80 ≤ c.toNat := by
  cases h with
  | pair l v hl hv hc ha hb => omega
  | closed s t hs hpos ht hc ha hb => omega
  | listed h => exact h.wide

theorem wide_right : 0x80 ≤ b.toNat := by
  cases h with
  | pair l v hl hv hc ha hb => omega
  | closed s t hs hpos ht hc ha hb => omega
  | listed h => exact h.wide_right

theorem left_ne_dot : a ≠ '.' := by
  rintro rfl
  have hdot : ('.' : Char).toNat = 0x2E := rfl
  cases h with
  | pair l v hl hv hc ha hb => omega
  | closed s t hs hpos ht hc ha hb => omega
  | listed h => exact h.left_ne rfl

end IsComposed

theorem IsComposed.parts?_eq {c a b : Char} (h : IsComposed c a b) : parts? c = some (a, b) := by
  cases h with
  | pair l v hl hv hc ha hb =>
    have hin : 0xAC00 ≤ c.toNat ∧ c.toNat ≤ 0xD7A3 := by omega
    have hopen : (c.toNat - 0xAC00) % 28 = 0 := by omega
    have hl : 0x1100 + (c.toNat - 0xAC00) / 588 = a.toNat := by omega
    have hv : 0x1161 + (c.toNat - 0xAC00) % 588 / 28 = b.toNat := by omega
    simp only [parts?, hin, hopen, hl, hv, and_self, if_true, Char.ofNat_toNat]
  | closed s t hs hpos ht hc ha hb =>
    have hin : 0xAC00 ≤ c.toNat ∧ c.toNat ≤ 0xD7A3 := by omega
    have hclosed : (c.toNat - 0xAC00) % 28 ≠ 0 := by omega
    have hs : c.toNat - (c.toNat - 0xAC00) % 28 = a.toNat := by omega
    have ht : 0x11A7 + (c.toNat - 0xAC00) % 28 = b.toNat := by omega
    simp only [parts?, hin, hclosed, hs, ht, and_self, if_true, if_false, Char.ofNat_toNat]
  | listed h =>
    have hout : ¬(0xAC00 ≤ c.toNat ∧ c.toNat ≤ 0xD7A3) := by
      have hsyllable := h.not_syllable
      simp only [isSyllable, Bool.and_eq_false_iff, decide_eq_false_iff_not] at hsyllable
      omega
    simp only [parts?, hout, if_false, h.find?, Char.ofNat_toNat]

theorem isComposed_of_parts? {c a b : Char} (h : parts? c = some (a, b)) : IsComposed c a b := by
  unfold parts? at h
  dsimp only at h
  split at h
  · rename_i hin
    split at h
    · rename_i hopen
      simp only [Option.some.injEq, Prod.mk.injEq] at h
      obtain ⟨ha, hb⟩ := h
      have ha : a.toNat = 0x1100 + (c.toNat - 0xAC00) / 588 := by
        rw [← ha]
        exact toNat_ofNat (.inl (by omega))
      have hb : b.toNat = 0x1161 + (c.toNat - 0xAC00) % 588 / 28 := by
        rw [← hb]
        exact toNat_ofNat (.inl (by omega))
      exact .pair _ _ (by omega) (by omega) (by omega) ha hb
    · rename_i hclosed
      simp only [Option.some.injEq, Prod.mk.injEq] at h
      obtain ⟨ha, hb⟩ := h
      have ha : a.toNat = c.toNat - (c.toNat - 0xAC00) % 28 := by
        rw [← ha]
        exact toNat_ofNat (.inl (by omega))
      have hb : b.toNat = 0x11A7 + (c.toNat - 0xAC00) % 28 := by
        rw [← hb]
        exact toNat_ofNat (.inl (by omega))
      exact .closed ((c.toNat - 0xAC00) / 28) ((c.toNat - 0xAC00) % 28) (by omega) (by omega)
        (by omega) (by omega) (by omega) hb
  · split at h
    · rename_i first last x y hfind
      obtain ⟨hmem, hfirst, hlast⟩ := mem_of_find? hfind
      obtain ⟨x', y', hlisted, hlast', hvalues⟩ := exists_isListed hmem
      dsimp only at hlisted hfirst hlast hlast' hvalues
      obtain rfl : first = c.toNat := by omega
      simp only [List.cons.injEq, and_true] at hvalues
      obtain ⟨rfl, rfl⟩ := hvalues
      simp only [Option.some.injEq, Prod.mk.injEq] at h
      obtain ⟨rfl, rfl⟩ := h
      refine .listed ?_
      rwa [toNat_ofNat hlisted.valid_left, toNat_ofNat hlisted.valid_right]
    · cases h

theorem isComposed_of_composed? {a b c : Char} (h : composed? a b = some c) :
    IsComposed c a b := by
  unfold composed? at h
  dsimp only at h
  split at h
  · rename_i hin
    simp only [Option.some.injEq] at h
    have hc : c.toNat = 0xAC00 + ((a.toNat - 0x1100) * 21 + (b.toNat - 0x1161)) * 28 := by
      rw [← h]
      exact toNat_ofNat (.inl (by omega))
    exact .pair (a.toNat - 0x1100) (b.toNat - 0x1161) (by omega) (by omega) hc (by omega)
      (by omega)
  · split at h
    · rename_i hin
      simp only [Option.some.injEq] at h
      have hc : c.toNat = a.toNat + (b.toNat - 0x11A7) := by
        rw [← h]
        exact toNat_ofNat (.inl (by omega))
      exact .closed ((a.toNat - 0xAC00) / 28) (b.toNat - 0x11A7) (by omega) (by omega) (by omega)
        (by omega) (by omega) (by omega)
    · obtain ⟨run, hfind, hc⟩ := Option.map_eq_some_iff.mp h
      obtain ⟨hmem, hvalues⟩ := mem_of_findValues? hfind
      obtain ⟨x, y, hlisted, -, hvalues'⟩ := exists_isListed hmem
      rw [hvalues', List.cons.injEq, List.cons.injEq] at hvalues
      obtain ⟨rfl, rfl, -⟩ := hvalues
      refine .listed ?_
      rwa [← hc, toNat_ofNat hlisted.valid]

theorem parts?_eq_none {c : Char} (hsyllable : isSyllable c.toNat = false)
    (hcomposed : (covered compositions.runs.toList).testBit c.toNat = false) : parts? c = none := by
  have hout : ¬(0xAC00 ≤ c.toNat ∧ c.toNat ≤ 0xD7A3) := by
    simp only [isSyllable, Bool.and_eq_false_iff, decide_eq_false_iff_not] at hsyllable
    omega
  have hfind : compositions.find? c.toNat = none := by
    cases hfind : compositions.find? c.toNat with
    | none => rfl
    | some run =>
      obtain ⟨hmem, hfirst, hlast⟩ := mem_of_find? hfind
      rw [testBit_covered.mpr ⟨run, hmem, hfirst, hlast⟩] at hcomposed
      cases hcomposed
  simp only [parts?, hout, if_false, hfind]

/-- The letters that syllables are composed of. -/
theorem parts?_letter {c : Char} (hlow : 0x1100 ≤ c.toNat) (hhigh : c.toNat < 0x1200) :
    parts? c = none := by
  have hsound := isSound_compositions
  simp only [isSound, Bool.and_eq_true] at hsound
  have hsyllable : isSyllable c.toNat = false := by
    simp only [isSyllable, Bool.and_eq_false_iff, decide_eq_false_iff_not]
    omega
  exact parts?_eq_none hsyllable (testBit_of_isClear hsound.1.2 hlow (by omega))

theorem IsComposed.parts?_right {c a b : Char} (h : IsComposed c a b) : parts? b = none := by
  cases h with
  | pair l v hl hv hc ha hb => exact parts?_letter (by omega) (by omega)
  | closed s t hs hpos ht hc ha hb => exact parts?_letter (by omega) (by omega)
  | listed h => exact parts?_eq_none h.not_syllable_right h.not_composed_right

/-- Whether a character has at most `depth` layers. -/
def IsShallow : (depth : Nat) → Char → Prop
  | 0, c => parts? c = none
  | depth + 1, c => ∀ a b, parts? c = some (a, b) → IsShallow depth a

theorem IsShallow.succ {depth : Nat} {c : Char} (h : IsShallow depth c) :
    IsShallow (depth + 1) c := by
  induction depth generalizing c with
  | zero =>
    intro a b hparts
    have hnone : parts? c = none := h
    rw [hnone] at hparts
    cases hparts
  | succ depth ih => exact fun a b hparts => ih (h a b hparts)

theorem isShallow_of_layered {depth : Nat} {c : Char} (hsyllable : isSyllable c.toNat = false)
    (h : (layered compositions.runs.toList depth).testBit c.toNat = false) :
    IsShallow depth c := by
  induction depth generalizing c with
  | zero => exact parts?_eq_none hsyllable h
  | succ depth ih =>
    intro a b hparts
    have hin (hlow : 0xAC00 ≤ c.toNat) (hhigh : c.toNat ≤ 0xD7A3) : False := by
      simp [isSyllable, hlow, hhigh] at hsyllable
    cases isComposed_of_parts? hparts with
    | pair l v hl hv hc ha hb => exact absurd (hin (by omega) (by omega)) not_false
    | closed s t hs hpos ht hc ha hb => exact absurd (hin (by omega) (by omega)) not_false
    | listed hlisted =>
      obtain ⟨run, hrun, hfirst, hlast, hvalues⟩ := hlisted.run
      refine ih hlisted.not_syllable_left (Bool.eq_false_iff.mpr fun hdeep => ?_)
      have hfilter : run ∈ compositions.runs.toList.filter fun run =>
          (layered compositions.runs.toList depth).testBit run.value := by
        refine List.mem_filter.mpr ⟨hrun, ?_⟩
        rw [Run.value, hvalues]
        exact hdeep
      rw [layered, testBit_covered.mpr ⟨run, hfilter, by omega, by omega⟩] at h
      cases h

/-- No character has more than three layers. -/
theorem isShallow (c : Char) : IsShallow 3 c := by
  cases hsyllable : isSyllable c.toNat with
  | false =>
    have hsound := isSound_compositions
    simp only [isSound, Bool.and_eq_true] at hsound
    refine isShallow_of_layered hsyllable ?_
    rw [eq_of_beq hsound.2, Nat.zero_testBit]
  | true =>
    refine IsShallow.succ fun a b hparts a' b' hparts' => ?_
    cases isComposed_of_parts? hparts with
    | pair l v hl hv hc ha hb =>
      rw [parts?_letter (by omega) (by omega)] at hparts'
      cases hparts'
    | closed s t hs hpos ht hc ha hb =>
      cases isComposed_of_parts? hparts' with
      | pair l v hl hv hc' ha' hb' => exact parts?_letter (by omega) (by omega)
      | closed s' t' hs' hpos' ht' hc' ha' hb' => omega
      | listed hlisted =>
        have hsyllable := hlisted.not_syllable
        simp only [isSyllable, Bool.and_eq_false_iff, decide_eq_false_iff_not] at hsyllable
        omega
    | listed hlisted =>
      rw [hlisted.not_syllable] at hsyllable
      cases hsyllable

theorem decompose_succ {depth : Nat} {c : Char} (h : IsShallow depth c) :
    decompose (depth + 1) c = decompose depth c := by
  induction depth generalizing c with
  | zero =>
    have hparts : parts? c = none := h
    simp [decompose, hparts]
  | succ depth ih =>
    rw [decompose, decompose]
    cases hparts : parts? c with
    | none => rfl
    | some parts =>
      obtain ⟨a, b⟩ := parts
      dsimp only
      rw [ih (h a b hparts)]

theorem decompose_of_parts?_eq_none {c : Char} (h : parts? c = none) (depth : Nat) :
    decompose depth c = [c] := by
  cases depth with
  | zero => rfl
  | succ depth => rw [decompose, h]

/-- Taking apart goes on in the first part alone. -/
theorem decompose_of_isComposed {c a b : Char} (h : IsComposed c a b) :
    decompose 4 c = decompose 4 a ++ [b] := by
  rw [decompose, h.parts?_eq]
  dsimp only
  rw [decompose_succ (isShallow a)]

/-- What a character is taken apart into has no parts. -/
theorem parts?_of_mem_decompose {depth : Nat} {c d : Char} (h : IsShallow depth c)
    (hd : d ∈ decompose depth c) : parts? d = none := by
  induction depth generalizing c with
  | zero =>
    rw [List.mem_singleton.mp hd]
    exact h
  | succ depth ih =>
    rw [decompose] at hd
    cases hparts : parts? c with
    | none =>
      rw [hparts] at hd
      rw [List.mem_singleton.mp hd]
      exact hparts
    | some parts =>
      obtain ⟨a, b⟩ := parts
      rw [hparts] at hd
      obtain hd | hd := List.mem_append.mp hd
      · exact ih (h a b hparts) hd
      · rw [List.mem_singleton.mp hd]
        exact (isComposed_of_parts? hparts).parts?_right

/-- What holds of the parts of a character with it holds of what it is taken apart into. -/
theorem forall_mem_decompose {P : Char → Prop}
    (hparts : ∀ c a b, IsComposed c a b → P c → P a ∧ P b) {c : Char} (h : P c) (depth : Nat) :
    ∀ d ∈ decompose depth c, P d := by
  induction depth generalizing c with
  | zero => simpa [decompose] using h
  | succ depth ih =>
    intro d hd
    rw [decompose] at hd
    cases hc : parts? c with
    | none =>
      rw [hc] at hd
      rwa [List.mem_singleton.mp hd]
    | some parts =>
      obtain ⟨a, b⟩ := parts
      rw [hc] at hd
      obtain ⟨ha, hb⟩ := hparts c a b (isComposed_of_parts? hc) h
      obtain hd | hd := List.mem_append.mp hd
      · exact ih ha d hd
      · rwa [List.mem_singleton.mp hd]

end WorkflowPod.Unicode
