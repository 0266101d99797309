import WorkflowPod.Proofs.Yaml.Scalar

/-!
What scalars are read as: a text as itself, since no text that means something else is written
plain, and an integer as the number it is.
-/
namespace WorkflowPod.Yaml

open Text

theorem value_of_text (s : List Char) :
    (Scalar.mk s (style s = .plain)).value = .str (String.ofList s) := by
  by_cases hstyle : style s = .plain
  · have hmistakable := (style_eq_plain hstyle).1
    simp only [isMistakable, isNumber, Bool.or_eq_false_iff] at hmistakable
    obtain ⟨⟨⟨hnull, htruth⟩, hinteger, hreal⟩, -⟩ := hmistakable
    simp [Scalar.value, hstyle, hnull, htruth, hinteger, hreal]
  · simp [Scalar.value, hstyle]

theorem ne_of_isDigit {c : Char} (h : c.isDigit = true) (others : List Char)
    (hothers : ∀ d ∈ others, d.isDigit = false) : ∀ d ∈ others, c ≠ d := by
  rintro d hd rfl
  rw [hothers _ hd] at h
  cases h

theorem readNumeral?_toDigits (n : Nat) : readNumeral? (Nat.toDigits 10 n) = some n := by
  have hradix : readRadix? (Nat.toDigits 10 n) = none := by
    unfold readRadix?
    split
    · exact absurd ‹_› (toDigits_ne_zero_cons n _ _)
    · exact absurd ‹_› (toDigits_ne_zero_cons n _ _)
    · exact absurd ‹_› (toDigits_ne_zero_cons n _ _)
    · rfl
  rw [readNumeral?, hradix, readNat?_toDigits (by decide) (by decide)]
  rfl

theorem isNumeralBelow_toDigits {limit n : Nat} (h : n < limit) :
    isNumeralBelow limit (Nat.toDigits 10 n) = true := by
  change (readNumeral? (Nat.toDigits 10 n)).any (· < limit) = true
  rw [readNumeral?_toDigits]
  simpa using h

theorem isZeroLed_toDigits (n : Nat) : isZeroLed (Nat.toDigits 10 n) = false := by
  obtain ⟨c, rest, h, hc⟩ := exists_digit_cons n
  have hsigned : isSigned (Nat.toDigits 10 n) = false := by
    rw [h, isSigned, Bool.or_eq_false_iff]
    constructor <;> (rw [beq_eq_false_iff_ne]; rintro rfl; simp at hc)
  rw [isZeroLed, hsigned, if_neg (by simp)]
  split
  · exact absurd ‹_› (toDigits_ne_zero_cons n _ _)
  · rfl

theorem isZeroLed_neg_toDigits (n : Nat) : isZeroLed ('-' :: Nat.toDigits 10 n) = false := by
  rw [isZeroLed, if_pos (by simp [isSigned]), List.drop_one, List.tail_cons]
  split
  · exact absurd ‹_› (toDigits_ne_zero_cons n _ _)
  · rfl

/-- Numerals are none of the words that stand for null or a truth value. -/
theorem not_word_of_numeral {c : Char} (rest : List Char) (h : c.isDigit = true ∨ c = '-') :
    isNull (c :: rest) = false ∧ isTruth (c :: rest) = false := by
  have hne : ∀ d ∈ ['n', 'N', '~', 't', 'T', 'f', 'F'], c ≠ d := by
    rcases h with h | rfl
    · exact ne_of_isDigit h _ (by simp)
    · simp
  simp only [List.forall_mem_cons, ne_comm (a := c)] at hne
  simp [isNull, isTruth, hne]

/-- An integer is read back as itself. -/
theorem value_of_numeral {n : Int} (hlow : -(wideSize / 2 : Nat) ≤ n) (hhigh : n < wideSize) :
    (Scalar.mk (toString n).toList true).value = .int n := by
  rw [toList_toString]
  obtain ⟨c, rest, hdigits, hc⟩ := exists_digit_cons n.natAbs
  have hminus : c ≠ '-' := by rintro rfl; simp at hc
  have hplus : c ≠ '+' := by rintro rfl; simp at hc
  have hafter : afterPlus (Nat.toDigits 10 n.natAbs) = Nat.toDigits 10 n.natAbs := by
    rw [hdigits]
    unfold afterPlus
    split <;> simp_all
  split_ifs with hneg
  · obtain ⟨hnull, htruth⟩ := not_word_of_numeral (Nat.toDigits 10 n.natAbs) (.inr rfl)
    have hinteger : isInteger ('-' :: Nat.toDigits 10 n.natAbs) = true := by
      have hbelow : isNumeralBelow (wideSize / 2 + 1) (Nat.toDigits 10 n.natAbs) = true :=
        isNumeralBelow_toDigits (by omega)
      simp [isInteger, isZeroLed_neg_toDigits, hbelow]
    have hvalue : integerOf ('-' :: Nat.toDigits 10 n.natAbs) = n := by
      rw [integerOf, readNumeral?_toDigits]
      change -((n.natAbs : Nat) : Int) = n
      omega
    simp [Scalar.value, hnull, htruth, hinteger, hvalue]
  · obtain ⟨hnull, htruth⟩ := not_word_of_numeral rest (.inl hc)
    have hinteger : isInteger (Nat.toDigits 10 n.natAbs) = true := by
      have hbelow : isNumeralBelow wideSize (Nat.toDigits 10 n.natAbs) = true :=
        isNumeralBelow_toDigits (by omega)
      simp [isInteger, isZeroLed_toDigits, hafter, hbelow]
    have hvalue : integerOf (Nat.toDigits 10 n.natAbs) = n := by
      rw [integerOf, hafter, readNumeral?_toDigits]
      · change ((n.natAbs : Nat) : Int) = n
        omega
      · simp [hdigits, hminus]
    rw [← hdigits] at hnull htruth
    simp [Scalar.value, hnull, htruth, hinteger, hvalue]

/-- Whether a character stands for itself wherever it is in a plain scalar but at its start. -/
def isOrdinary (c : Char) : Bool := isPrintable c && !isBlank c && c != ':' && c != '#'

section

variable {s : List Char} (h : ∀ c ∈ s, isOrdinary c = true)

include h

theorem hasIndicator_of_ordinary : hasIndicator s = false := by
  induction s with
  | nil => rfl
  | cons c rest ih =>
    rw [hasIndicator_cons, ih fun d hd => h d (List.mem_cons_of_mem _ hd)]
    cases rest with
    | nil => rfl
    | cons d rest =>
      have hd := h d (List.mem_cons_of_mem _ List.mem_cons_self)
      simp only [isOrdinary, Bool.and_eq_true, bne_iff_ne] at hd
      simp [startsMark, hd]

theorem hasNeighbours_of_ordinary (q : Char → Bool) : hasNeighbours (· == ' ') q s = false := by
  induction s with
  | nil => rfl
  | cons c rest ih =>
    have hc : c ≠ ' ' := by rintro rfl; simp [isOrdinary, isBlank] at h
    rw [hasNeighbours_cons, ih fun d hd => h d (List.mem_cons_of_mem _ hd)]
    simp [hc]

theorem allowsPlain_of_ordinary (hdocument : startsDocument s = false)
    (hstart : startsIndicator s = false) : allowsPlain s = true := by
  have hblank : ' ' ∉ s := fun hmem => absurd (h _ hmem) (by decide)
  have hhead : s.head? ≠ some ' ' := fun hs => hblank (List.mem_of_head? hs)
  have hlast : s.getLast? ≠ some ' ' := fun hs => hblank (List.mem_of_getLast? hs)
  have hprint : ∀ c ∈ s, isPrintable c = true ∧ isBreak c = false := by
    intro c hc
    have := h c hc
    simp only [isOrdinary, isBlank, Bool.and_eq_true, Bool.not_eq_true', Bool.or_eq_false_iff]
      at this
    exact ⟨this.1.1.1, this.1.1.2.2⟩
  have hbreak : s.any isBreak = false := by
    simpa using fun c hc => (hprint c hc).2
  have hescapes : needsEscapes s = false := by
    simpa [needsEscapes, hasNeighbours_of_ordinary h] using fun c hc => (hprint c hc).1
  simp [allowsPlain, hescapes, hbreak, hhead, hlast, hdocument, hstart, hasIndicator_of_ordinary h]

end

theorem startsIndicator_of_isDigit {c : Char} (h : c.isDigit = true) (rest : List Char) :
    startsIndicator (c :: rest) = false := by
  have hindicators : "#,[]\x7b\x7d&*!|>\x27\"%@`".toList.contains c = false := by
    rw [List.contains_eq_any_beq, List.any_eq_false]
    intro d hd
    simpa using ne_of_isDigit h _ (by simp) d hd
  have hne := ne_of_isDigit h ['?', ':', '-'] (by simp)
  simp only [List.forall_mem_cons] at hne
  rw [startsIndicator, hindicators]
  simp [hne]

theorem isOrdinary_of_isDigit {c : Char} (h : c.isDigit = true) : isOrdinary c = true := by
  have hrange : 48 ≤ c.toNat ∧ c.toNat ≤ 57 := Char.isDigit_iff_toNat.1 h
  have hprint : isPrintable c = true := by
    simp only [isPrintable, Bool.or_eq_true, Bool.and_eq_true, decide_eq_true_eq]
    omega
  have hne := ne_of_isDigit h
    [' ', '\t', '\x00', '\n', '\r', '\u0085', '\u2028', '\u2029', ':', '#'] (by simp)
  simp only [List.forall_mem_cons] at hne
  simp [isOrdinary, hprint, isBlank, isBreak, hne]

/-- Numerals are written plain. -/
theorem allowsPlain_numeral (n : Int) : allowsPlain (toString n).toList = true := by
  rw [toList_toString]
  have hdigits : ∀ c ∈ Nat.toDigits 10 n.natAbs, isOrdinary c = true :=
    fun c hc => isOrdinary_of_isDigit (isDigit_of_mem_toDigits hc)
  obtain ⟨c, rest, h, hc⟩ := exists_digit_cons n.natAbs
  rw [h] at hdigits ⊢
  have hordinary := isOrdinary_of_isDigit hc
  have hminus : '-' ≠ c := by rintro rfl; simp at hc
  split_ifs
  · refine allowsPlain_of_ordinary (List.forall_mem_cons.2 ⟨by decide, hdigits⟩) ?_ ?_
    · simp [startsDocument, startsWith, afterLead?, hminus]
    · have hword : endsWord (c :: rest) = false := by
        simp only [isOrdinary, Bool.and_eq_true, Bool.not_eq_true'] at hordinary
        simpa [endsWord] using hordinary.1.1.2
      have hindicators : "#,[]\x7b\x7d&*!|>\x27\"%@`".toList.contains '-' = false := by decide
      rw [List.singleton_append, startsIndicator, hindicators, hword]
      rfl
  · have hne := ne_of_isDigit hc ['-', '.'] (by simp)
    simp only [List.forall_mem_cons] at hne
    exact allowsPlain_of_ordinary hdigits
      (startsDocument_eq_false (by simpa using hne.1) (by simpa using hne.2.1))
      (startsIndicator_of_isDigit hc rest)

end WorkflowPod.Yaml
