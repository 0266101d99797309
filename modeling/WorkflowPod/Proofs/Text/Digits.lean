import Mathlib.Data.List.Induction
import Mathlib.Data.Nat.Digits.Defs
import Mathlib.Tactic.IntervalCases
import WorkflowPod.Text.Digits

/-! Numerals denote the numbers they are written for. -/
namespace WorkflowPod.Text

theorem readDigits?_concat (radix : Nat) (s : List Char) (d : Char) :
    readDigits? radix (s ++ [d]) =
      (readDigits? radix s).bind fun n => (digitOf? radix d).map (n * radix + ·) := by
  simp [readDigits?, List.foldlM_append]

theorem lt_of_digitOf? {radix d : Nat} {c : Char} (h : digitOf? radix c = some d) : d < radix := by
  obtain ⟨-, hd⟩ := Option.filter_eq_some_iff.mp h
  simpa using hd

theorem lt_of_readDigits? {radix n : Nat} {s : List Char} (h : readDigits? radix s = some n) :
    n < radix ^ s.length := by
  induction s using List.reverseRecOn generalizing n with
  | nil =>
    obtain rfl : 0 = n := by simpa [readDigits?] using h
    simp
  | append_singleton s c ih =>
    rw [readDigits?_concat] at h
    obtain ⟨m, hm, h⟩ := Option.bind_eq_some_iff.mp h
    obtain ⟨d, hd, rfl⟩ := Option.map_eq_some_iff.mp h
    have hlead := ih hm
    have hdigit := lt_of_digitOf? hd
    rw [List.length_append, List.length_singleton, pow_succ]
    calc m * radix + d < (m + 1) * radix := by rw [Nat.add_mul]; omega
      _ ≤ radix ^ s.length * radix := Nat.mul_le_mul_right _ hlead

theorem digitOf?_hexDigit {n : Nat} (h : n < 16) : digitOf? 16 (hexDigit n) = some n := by
  interval_cases n <;> rfl

theorem readDigits?_hexDigits (width n : Nat) :
    readDigits? 16 (hexDigits width n) = some (n % 16 ^ width) := by
  induction width generalizing n with
  | zero => simp [hexDigits, readDigits?, Nat.mod_one]
  | succ width ih =>
    have hdigit : digitOf? 16 (hexDigit (n % 16)) = some (n % 16) :=
      digitOf?_hexDigit (Nat.mod_lt _ (by decide))
    have hsplit : n / 16 % 16 ^ width * 16 + n % 16 = n % 16 ^ (width + 1) := by
      rw [Nat.pow_succ', Nat.mod_mul, Nat.mul_comm, Nat.add_comm]
    rw [hexDigits, readDigits?_concat, ih, Option.bind_some, hdigit, Option.map_some, hsplit]

theorem readNat?_hexDigits {width n : Nat} (hwidth : 0 < width) (hn : n < 16 ^ width) :
    readNat? 16 (hexDigits width n) = some n := by
  have hne : (hexDigits width n).isEmpty = false := by
    obtain ⟨width, rfl⟩ := Nat.exists_eq_succ_of_ne_zero hwidth.ne'
    simp [hexDigits]
  rw [readNat?, hne, readDigits?_hexDigits, Nat.mod_eq_of_lt hn]
  rfl

theorem digitValue?_digitChar {n : Nat} (h : n < 16) : digitValue? n.digitChar = some n := by
  interval_cases n <;> rfl

section Radix

variable {radix : Nat} (hlow : 1 < radix) (hhigh : radix ≤ 16)

include hhigh in
theorem digitOf?_digitChar {n : Nat} (h : n < radix) : digitOf? radix n.digitChar = some n := by
  rw [digitOf?, digitValue?_digitChar (by omega)]
  simp [h]

include hlow hhigh

theorem readDigits?_toDigits (n : Nat) : readDigits? radix (Nat.toDigits radix n) = some n := by
  induction n using Nat.strongRecOn with
  | ind n ih =>
    by_cases hn : n < radix
    · rw [Nat.toDigits_of_lt_base hn, readDigits?, List.foldlM_cons, digitOf?_digitChar hhigh hn]
      simp
    · have hdigit : digitOf? radix (n % radix).digitChar = some (n % radix) :=
        digitOf?_digitChar hhigh (Nat.mod_lt _ (by omega))
      have hsmaller : n / radix < n := Nat.div_lt_self (by omega) hlow
      rw [Nat.toDigits_of_base_le hlow (by omega), readDigits?_concat, ih _ hsmaller,
        Option.bind_some, hdigit, Option.map_some, Nat.div_add_mod']

theorem readNat?_toDigits (n : Nat) : readNat? radix (Nat.toDigits radix n) = some n := by
  have hne : (Nat.toDigits radix n).isEmpty = false := by simp
  rw [readNat?, hne, readDigits?_toDigits hlow hhigh]
  rfl

omit hhigh in
theorem exists_digitChar_of_mem {n : Nat} {c : Char} (h : c ∈ Nat.toDigits radix n) :
    ∃ d < radix, c = d.digitChar := by
  induction n using Nat.strongRecOn with
  | ind n ih =>
    by_cases hn : n < radix
    · rw [Nat.toDigits_of_lt_base hn, List.mem_singleton] at h
      exact ⟨n, hn, h⟩
    · rw [Nat.toDigits_of_base_le hlow (by omega), List.mem_append, List.mem_singleton] at h
      obtain h | h := h
      · exact ih _ (Nat.div_lt_self (by omega) hlow) h
      · exact ⟨n % radix, Nat.mod_lt _ (by omega), h⟩

end Radix

/-- No numeral of a positive number begins with a zero. -/
theorem head?_toDigits_ne_zero {n : Nat} (h : 0 < n) : (Nat.toDigits 10 n).head? ≠ some '0' := by
  induction n using Nat.strongRecOn with
  | ind n ih =>
    by_cases hn : n < 10
    · rw [Nat.toDigits_of_lt_base hn]
      interval_cases n <;> decide
    · have hne : Nat.toDigits 10 (n / 10) ≠ [] := Nat.toDigits_ne_nil
      obtain ⟨d, rest, hd⟩ := List.exists_cons_of_ne_nil hne
      have hhead := ih (n / 10) (by omega) (by omega)
      rw [hd] at hhead
      rw [Nat.toDigits_of_base_le (by decide) (by omega), hd]
      exact hhead

/-- No numeral has a zero before other digits. -/
theorem toDigits_ne_zero_cons (n : Nat) (d : Char) (rest : List Char) :
    Nat.toDigits 10 n ≠ '0' :: d :: rest := by
  intro h
  by_cases hn : n = 0
  · subst hn
    simp at h
  · exact head?_toDigits_ne_zero (Nat.pos_of_ne_zero hn) (by rw [h]; rfl)

theorem isDigit_of_mem_toDigits {n : Nat} {c : Char} (h : c ∈ Nat.toDigits 10 n) :
    c.isDigit = true :=
  Nat.isDigit_of_mem_toDigits (by decide) (by decide) h

theorem exists_digit_cons (n : Nat) :
    ∃ c rest, Nat.toDigits 10 n = c :: rest ∧ c.isDigit = true := by
  obtain ⟨c, rest, h⟩ := List.exists_cons_of_ne_nil (Nat.toDigits_ne_nil (n := n) (b := 10))
  exact ⟨c, rest, h, isDigit_of_mem_toDigits (h ▸ List.mem_cons_self)⟩

/-- The numeral of an integer: a sign, if there is one, and digits. -/
theorem toList_toString (n : Int) :
    (toString n).toList = (if n < 0 then ['-'] else []) ++ Nat.toDigits 10 n.natAbs := by
  rw [Int.toString_eq_repr, Int.repr_eq_if]
  split_ifs with hn hneg hneg
  · omega
  · rw [Nat.repr_eq_ofList_toDigits, String.toList_ofList, ← Int.natAbs_of_nonneg hn]
    rfl
  · have habs : (-n).toNat = n.natAbs := by omega
    rw [habs, String.toList_append, Nat.repr_eq_ofList_toDigits, String.toList_ofList,
      String.toList_ofList]
  · omega

end WorkflowPod.Text
