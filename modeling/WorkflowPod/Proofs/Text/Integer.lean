import WorkflowPod.Proofs.Text.Digits
import WorkflowPod.Proofs.Text.Split
import WorkflowPod.Text.Integer

/-!
Decimal numerals of any length, and the integers they denote. Main statement: a range accepts
exactly the numerals of its integers, each as the integer it denotes. Every integer is written as
one of its numerals.
-/
namespace WorkflowPod.Text

/-- What stands before the digits of a numeral. -/
inductive Sign where
  | none
  | plus
  | minus

namespace Sign

def text : Sign → List Char
  | none => []
  | plus => ['+']
  | minus => ['-']

def isMinus : Sign → Bool
  | minus => true
  | _ => false

end Sign

def signed (negative : Bool) (n : Nat) : Int := if negative then -(n : Int) else n

@[simp] theorem signed_true (n : Nat) : signed true n = -(n : Int) := rfl

@[simp] theorem signed_false (n : Nat) : signed false n = n := rfl

/-- A sign or none, and at least one digit; the first ones may be zeros. -/
structure Numeral where
  sign : Sign
  digits : List Char
  digits_ne_nil : digits ≠ []
  isDigit_of_mem : ∀ c ∈ digits, c.isDigit = true

namespace Numeral

def text (m : Numeral) : List Char := m.sign.text ++ m.digits

def value (m : Numeral) : Int := signed m.sign.isMinus (Nat.ofDigitChars 10 m.digits 0)

/-- The numeral of an integer without zeros at the start, and with a sign only if it is negative. -/
def ofInt (n : Int) : Numeral where
  sign := if n < 0 then .minus else .none
  digits := Nat.toDigits 10 n.natAbs
  digits_ne_nil := Nat.toDigits_ne_nil
  isDigit_of_mem _ hc := isDigit_of_mem_toDigits hc

theorem text_ofInt (n : Int) : (ofInt n).text = (toString n).toList := by
  rw [toList_toString, text, ofInt]
  split_ifs <;> rfl

theorem value_ofInt (n : Int) : (ofInt n).value = n := by
  rw [value, ofInt, Nat.ofDigitChars_ten_toDigits]
  split_ifs with hneg
  · change -(n.natAbs : Int) = n
    omega
  · change (n.natAbs : Int) = n
    omega

theorem isBlank_of_mem_text {m : Numeral} {c : Char} (h : c ∈ m.text) : isBlank c = false := by
  have hrange : 43 ≤ c.toNat ∧ c.toNat ≤ 57 := by
    rcases List.mem_append.1 h with h | h
    · cases hsign : m.sign <;> simp_all [Sign.text]
    · have hdigit : 48 ≤ c.toNat ∧ c.toNat ≤ 57 :=
        Char.isDigit_iff_toNat.1 (m.isDigit_of_mem c h)
      omega
  simp only [isBlank, Bool.or_eq_false_iff, Bool.and_eq_false_iff, decide_eq_false_iff_not,
    beq_eq_false_iff_ne]
  omega

end Numeral

/-- A text that is a numeral of an integer, with blanks around it or without. -/
def Denotes (s : List Char) (n : Int) : Prop :=
  ∃ (before after : List Char) (m : Numeral), s = before ++ m.text ++ after ∧
    (∀ c ∈ before ++ after, isBlank c = true) ∧ m.value = n

theorem denotes_iff {s : List Char} {n : Int} :
    Denotes s n ↔ ∃ m : Numeral, m.text = trim s ∧ m.value = n := by
  constructor
  · rintro ⟨before, after, m, rfl, hblank, hvalue⟩
    exact ⟨m, (trim_append hblank fun _ => m.isBlank_of_mem_text).symm, hvalue⟩
  · rintro ⟨m, htext, hvalue⟩
    obtain ⟨before, after, hs, hblank⟩ := exists_eq_append_trim s
    exact ⟨before, after, m, by rw [htext, ← hs], hblank, hvalue⟩

theorem denotes_toString (n : Int) : Denotes (toString n).toList n :=
  ⟨[], [], .ofInt n, by simp [Numeral.text_ofInt], by simp, Numeral.value_ofInt n⟩

theorem digitOf?_ten (c : Char) :
    digitOf? 10 c = if c.isDigit then some (c.toNat - '0'.toNat) else none := by
  unfold digitOf? digitValue?
  split_ifs with hdigit hlower hupper
  · have hbelow : c.toNat - '0'.toNat < 10 := by
      have hnine : c.toNat ≤ 57 := (Char.isDigit_iff_toNat.1 hdigit).2
      change c.toNat - 48 < 10
      omega
    rw [Option.filter_some, if_pos (by simpa using hbelow)]
  · simp
  · simp
  · rfl

theorem le_ofDigitChars (k : Nat) (s : List Char) : k ≤ Nat.ofDigitChars 10 s k := by
  rw [Nat.ofDigitChars_eq_ofDigitChars_zero]
  have hpow : 1 ≤ 10 ^ s.length := Nat.one_le_pow _ _ (by decide)
  calc k = 1 * k := (Nat.one_mul k).symm
    _ ≤ 10 ^ s.length * k := Nat.mul_le_mul_right k hpow
    _ ≤ _ := Nat.le_add_right _ _

section Range

variable {least most : Int}

/-- An integer if it is in the range from `least` to `most`. -/
def confine (least most n : Int) : Except IntegerFault Int :=
  if n < least then .error .tooSmall else if most < n then .error .tooLarge else .ok n

theorem confine_eq_ok_iff {n r : Int} :
    confine least most n = .ok r ↔ n = r ∧ least ≤ r ∧ r ≤ most := by
  unfold confine
  split_ifs <;> simp <;> omega

variable (hleast : least ≤ 0) (hmost : 0 ≤ most)

include hleast hmost

/-- Digits that come after a number beyond the range do not change what is wrong with it. -/
theorem confine_signed_of_le {negative : Bool} {k l : Nat} (hkl : k ≤ l)
    (hout : ¬(least ≤ signed negative k ∧ signed negative k ≤ most)) :
    confine least most (signed negative l) = confine least most (signed negative k) := by
  unfold confine
  cases negative with
  | true =>
    rw [signed_true] at hout ⊢
    rw [signed_true, if_pos (by omega), if_pos (by omega)]
  | false =>
    rw [signed_false] at hout ⊢
    rw [signed_false, if_neg (by omega), if_pos (by omega), if_neg (by omega), if_pos (by omega)]

theorem readIntegerFrom_cons {negative : Bool} {c : Char} (hc : c.isDigit = true) (k : Nat)
    (s : List Char) :
    readIntegerFrom least most negative (signed negative k) (c :: s) =
      let next := signed negative (10 * k + (c.toNat - '0'.toNat))
      if least ≤ next ∧ next ≤ most then readIntegerFrom least most negative next s
      else confine least most next := by
  rw [readIntegerFrom, digitOf?_ten, if_pos hc]
  generalize c.toNat - '0'.toNat = d
  cases negative with
  | true =>
    have hnext : signed true k * 10 - d = signed true (10 * k + d) := by
      rw [signed_true, signed_true]
      omega
    have hmost : signed true (10 * k + d) ≤ most := by
      rw [signed_true]
      omega
    simp only [if_true, hnext]
    by_cases hout : signed true (10 * k + d) < least
    · rw [if_pos hout, if_neg (by omega), confine, if_pos hout]
    · rw [if_neg hout, if_pos (by omega)]
  | false =>
    have hnext : signed false k * 10 + d = signed false (10 * k + d) := by
      rw [signed_false, signed_false]
      omega
    have hleast : least ≤ signed false (10 * k + d) := by
      rw [signed_false]
      omega
    simp only [Bool.false_eq_true, if_false, hnext]
    by_cases hout : most < signed false (10 * k + d)
    · rw [if_pos hout, if_neg (by omega), confine, if_neg (by omega), if_pos hout]
    · rw [if_neg hout, if_pos (by omega)]

/-- Digits lead from a number of the range to the number they make with it. -/
theorem readIntegerFrom_digits {negative : Bool} {s : List Char}
    (hs : ∀ c ∈ s, c.isDigit = true) {k : Nat}
    (hk : least ≤ signed negative k ∧ signed negative k ≤ most) :
    readIntegerFrom least most negative (signed negative k) s =
      confine least most (signed negative (Nat.ofDigitChars 10 s k)) := by
  induction s generalizing k with
  | nil => exact (confine_eq_ok_iff.2 ⟨rfl, hk⟩).symm
  | cons c s ih =>
    obtain ⟨hc, hs⟩ := List.forall_mem_cons.1 hs
    rw [readIntegerFrom_cons hleast hmost hc, Nat.ofDigitChars_cons]
    dsimp only
    split_ifs with hnext
    · exact ih hs hnext
    -- Reading stops here; the digits left would only lead further away from the range.
    · exact (confine_signed_of_le hleast hmost (le_ofDigitChars _ s) hnext).symm

omit hleast hmost

theorem isDigit_of_readIntegerFrom {negative : Bool} {n r : Int} {s : List Char}
    (h : readIntegerFrom least most negative n s = .ok r) : ∀ c ∈ s, c.isDigit = true := by
  induction s generalizing n with
  | nil => simp
  | cons c s ih =>
    rw [readIntegerFrom, digitOf?_ten] at h
    by_cases hc : c.isDigit = true
    · rw [if_pos hc] at h
      refine List.forall_mem_cons.2 ⟨hc, ?_⟩
      dsimp only at h
      split_ifs at h <;> exact ih h
    · rw [if_neg hc] at h
      cases h

/-- A numeral is read as the integer it denotes, however many digits that takes. -/
theorem readInteger_text (hleast : least < 0) (hmost : 0 ≤ most) (m : Numeral) :
    readInteger least most m.text = confine least most m.value := by
  obtain ⟨sign, digits, hne, hdigits⟩ := m
  have hread (negative : Bool) : readIntegerFrom least most negative 0 digits =
      confine least most (signed negative (Nat.ofDigitChars 10 digits 0)) := by
    have hzero : signed negative 0 = 0 := by cases negative <;> rfl
    rw [← hzero]
    exact readIntegerFrom_digits hleast.le hmost hdigits (by omega)
  have hempty : ¬digits.isEmpty = true := by simpa using hne
  cases sign with
  | none =>
    obtain ⟨c, rest, rfl⟩ := List.exists_cons_of_ne_nil hne
    have hc : c.isDigit = true := hdigits c List.mem_cons_self
    have hunsigned : readInteger least most (c :: rest) =
        readIntegerFrom least most false 0 (c :: rest) := by
      unfold readInteger
      split <;> simp_all
    exact hunsigned.trans (hread false)
  | plus =>
    change readInteger least most ('+' :: digits) = _
    rw [readInteger, if_neg hempty]
    exact hread false
  | minus =>
    change readInteger least most ('-' :: digits) = _
    rw [readInteger, if_neg (by simp [hne, hleast])]
    exact hread true

/-- Nothing but numerals is read. -/
theorem exists_text_of_readInteger {s : List Char} {r : Int}
    (h : readInteger least most s = .ok r) : ∃ m : Numeral, m.text = s := by
  unfold readInteger at h
  split at h
  · cases h
  · rename_i digits
    split_ifs at h with hempty
    have hne : digits ≠ [] := by simp_all
    exact ⟨⟨.minus, digits, hne, isDigit_of_readIntegerFrom h⟩, rfl⟩
  · rename_i digits
    split_ifs at h with hempty
    have hne : digits ≠ [] := by simp_all
    exact ⟨⟨.plus, digits, hne, isDigit_of_readIntegerFrom h⟩, rfl⟩
  · rename_i hne _ _
    exact ⟨⟨.none, s, hne, isDigit_of_readIntegerFrom h⟩, rfl⟩

/-- A range accepts the numerals of its integers and nothing else. -/
theorem readInteger_eq_ok_iff (hleast : least < 0) (hmost : 0 ≤ most) {s : List Char} {r : Int} :
    readInteger least most s = .ok r ↔
      ∃ m : Numeral, m.text = s ∧ m.value = r ∧ least ≤ r ∧ r ≤ most := by
  constructor
  · intro h
    obtain ⟨m, rfl⟩ := exists_text_of_readInteger h
    rw [readInteger_text hleast hmost] at h
    exact ⟨m, rfl, confine_eq_ok_iff.1 h⟩
  · rintro ⟨m, rfl, h⟩
    rw [readInteger_text hleast hmost]
    exact confine_eq_ok_iff.2 h

end Range

example : readInt64 "-9223372036854775808".toList = .ok (-9223372036854775808) := by rfl

example : readInt64 "+09223372036854775808".toList = .error .tooLarge := by rfl

/-- A text denotes one integer at most. -/
theorem Denotes.unique {s : List Char} {n r : Int} (hn : Denotes s n) (hr : Denotes s r) :
    n = r := by
  obtain ⟨m, hm, hmvalue⟩ := denotes_iff.1 hn
  obtain ⟨m', hm', hmvalue'⟩ := denotes_iff.1 hr
  -- Any range that has both integers tells which one is read.
  have hread : readInteger (min (-1) (min n r)) (max 0 (max n r)) (trim s) = .ok n :=
    (readInteger_eq_ok_iff (by omega) (by omega)).2 ⟨m, hm, hmvalue, by omega, by omega⟩
  have hread' : readInteger (min (-1) (min n r)) (max 0 (max n r)) (trim s) = .ok r :=
    (readInteger_eq_ok_iff (by omega) (by omega)).2 ⟨m', hm', hmvalue', by omega, by omega⟩
  exact Except.ok.inj (hread.symm.trans hread')

end WorkflowPod.Text
