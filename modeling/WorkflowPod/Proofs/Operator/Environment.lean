import WorkflowPod.Operator.Environment
import WorkflowPod.Proofs.Text.Integer

/-!
The numeric settings. Main statement: each is the integer that its variable denotes, if that has
sixty-four bits, and else its default, whatever the other variables are.
-/
namespace WorkflowPod.Operator

open Text

namespace Environment

/-- A numeric setting by its variable and its default. -/
structure IdSetting where
  variableName : String
  field : Environment → Int64
  fallback : Int64

def idSettings : List IdSetting :=
  [⟨"USER_ID", userId, 0⟩, ⟨"GROUP_ID", groupId, 0⟩, ⟨"FSGROUP", fsGroup, 5000⟩]

theorem field_ofLookup {setting : IdSetting} (h : setting ∈ idSettings)
    (lookup : String → Option String) :
    setting.field (ofLookup lookup) = id lookup setting.variableName setting.fallback := by
  simp only [idSettings, List.mem_cons, List.not_mem_nil, or_false] at h
  rcases h with rfl | rfl | rfl <;> rfl

section Setting

variable {lookup : String → Option String} {name raw : String} {fallback k : Int64} {n : Int}

/-- A text is read as an integer of sixty-four bits exactly if it denotes that. -/
theorem readId_eq_ok_iff : readId raw = .ok k ↔ Denotes raw.toList k.toInt := by
  have hread (n : Int) : readInt64 (trim raw.toList) = .ok n ↔
      ∃ m : Numeral, m.text = trim raw.toList ∧ m.value = n ∧
        Int64.minValue.toInt ≤ n ∧ n ≤ Int64.maxValue.toInt :=
    readInteger_eq_ok_iff (by decide) (by decide)
  rw [denotes_iff]
  constructor
  · intro h
    rw [readId] at h
    cases hok : readInt64 (trim raw.toList) with
    | error fault =>
      rw [hok] at h
      cases h
    | ok n =>
      obtain ⟨m, htext, rfl, hlow, hhigh⟩ := (hread n).1 hok
      rw [hok] at h
      obtain rfl : Int64.ofInt m.value = k := Except.ok.inj h
      exact ⟨m, htext, (Int64.toInt_ofInt_of_le hlow (Int.lt_of_le_sub_one hhigh)).symm⟩
  · rintro ⟨m, htext, hvalue⟩
    have hok : readInt64 (trim raw.toList) = .ok k.toInt :=
      (hread k.toInt).2 ⟨m, htext, hvalue, k.minValue_le_toInt, k.toInt_le⟩
    rw [readId, hok]
    exact congrArg Except.ok k.ofInt_toInt

theorem id_of_denotes (hraw : lookup name = some raw) (h : Denotes raw.toList k.toInt) :
    id lookup name fallback = k := by
  simp only [id, hraw, readId_eq_ok_iff.2 h]

theorem id_of_not_denotes
    (h : ∀ raw, lookup name = some raw → ∀ k : Int64, ¬Denotes raw.toList k.toInt) :
    id lookup name fallback = fallback := by
  cases hraw : lookup name with
  | none => simp only [id, hraw]
  | some raw =>
    cases hread : readId raw with
    | error fault => simp only [id, hraw, hread]
    | ok k => exact absurd (readId_eq_ok_iff.1 hread) (h raw hraw k)

theorem toInt_id (hraw : lookup name = some raw) (h : Denotes raw.toList n) (hlow : -2 ^ 63 ≤ n)
    (hhigh : n ≤ 2 ^ 63 - 1) : (id lookup name fallback).toInt = n := by
  have hn : (Int64.ofInt n).toInt = n := Int64.toInt_ofInt_of_le hlow (by omega)
  rw [id_of_denotes hraw (hn.symm ▸ h), hn]

theorem id_of_beyond (hraw : lookup name = some raw) (h : Denotes raw.toList n)
    (hout : n < -2 ^ 63 ∨ 2 ^ 63 - 1 < n) : id lookup name fallback = fallback := by
  refine id_of_not_denotes fun raw' hraw' k hk => ?_
  obtain rfl : raw = raw' := Option.some.inj (hraw.symm.trans hraw')
  have hlow := k.le_toInt
  have hhigh := k.toInt_lt
  rw [← h.unique hk] at hlow hhigh
  omega

end Setting

/-- Each numeric setting is the integer that the text found for its variable denotes, if that has
sixty-four bits. It is its default if nothing is found, if what is found is no numeral, and if the
numeral is beyond the range, by however much. What is found for other variables makes no difference,
and an integer written for a variable is read back. -/
theorem ids_denoted_or_default :
    ∀ setting ∈ idSettings, ∀ lookup : String → Option String,
      (∀ raw n, lookup setting.variableName = some raw → Denotes raw.toList n →
        -2 ^ 63 ≤ n → n ≤ 2 ^ 63 - 1 → (setting.field (ofLookup lookup)).toInt = n) ∧
      (∀ raw n, lookup setting.variableName = some raw → Denotes raw.toList n →
        n < -2 ^ 63 ∨ 2 ^ 63 - 1 < n → setting.field (ofLookup lookup) = setting.fallback) ∧
      ((∀ raw n, lookup setting.variableName = some raw → ¬Denotes raw.toList n) →
        setting.field (ofLookup lookup) = setting.fallback) ∧
      (∀ lookup' : String → Option String,
        lookup' setting.variableName = lookup setting.variableName →
        setting.field (ofLookup lookup') = setting.field (ofLookup lookup)) ∧
      (∀ n : Int, lookup setting.variableName = some (toString n) →
        -2 ^ 63 ≤ n → n ≤ 2 ^ 63 - 1 → (setting.field (ofLookup lookup)).toInt = n) := by
  intro setting hsetting lookup
  simp only [field_ofLookup hsetting]
  refine ⟨fun raw n => toInt_id, fun raw n => id_of_beyond, ?_, ?_, ?_⟩
  · intro hnone
    exact id_of_not_denotes fun raw hraw k => hnone raw k.toInt hraw
  · intro lookup' hsame
    rw [id, id, hsame]
  · intro n hraw
    exact toInt_id hraw (denotes_toString n)

theorem ids_denoted_or_default_mixed :
    let lookup : String → Option String := fun name =>
      if name = "USER_ID" then some " +007\n"
      else if name = "GROUP_ID" then some "1 2"
      else if name = "FSGROUP" then some "9223372036854775808"
      else none
    let alone : String → Option String := fun name =>
      if name = "USER_ID" then some " +007\n" else none
    let lowest : String → Option String := fun _ => some (toString (-2 ^ 63 : Int))
    Denotes " +007\n".toList 7 ∧ (∀ n, ¬Denotes "1 2".toList n) ∧
      Denotes "9223372036854775808".toList (2 ^ 63) ∧
      (ofLookup lookup).userId.toInt = 7 ∧ (ofLookup lookup).groupId = 0 ∧
      (ofLookup lookup).fsGroup = 5000 ∧
      (ofLookup alone).userId = (ofLookup lookup).userId ∧
      (ofLookup lowest).groupId.toInt = -2 ^ 63 := by
  intro lookup alone lowest
  have hseven : Denotes " +007\n".toList 7 :=
    ⟨[' '], ['\n'], ⟨.plus, ['0', '0', '7'], by simp, by simp⟩, by decide, by simp [isBlank],
      by decide⟩
  have hnothing (n : Int) : ¬Denotes "1 2".toList n := by
    intro h
    obtain ⟨m, htext, -⟩ := denotes_iff.1 h
    have hblank : ' ' ∈ m.text := by
      rw [htext]
      decide
    exact absurd (Numeral.isBlank_of_mem_text hblank) (by decide)
  have hbeyond : Denotes "9223372036854775808".toList (2 ^ 63) :=
    ⟨[], [], ⟨.none, "9223372036854775808".toList, by simp, by simp⟩, by decide, by simp,
      by decide⟩
  obtain ⟨huser, -, -, hsame, -⟩ :=
    ids_denoted_or_default ⟨"USER_ID", userId, 0⟩ (by simp [idSettings]) lookup
  obtain ⟨-, -, hnone, -, -⟩ :=
    ids_denoted_or_default ⟨"GROUP_ID", groupId, 0⟩ (by simp [idSettings]) lookup
  obtain ⟨-, -, -, -, hwritten⟩ :=
    ids_denoted_or_default ⟨"GROUP_ID", groupId, 0⟩ (by simp [idSettings]) lowest
  obtain ⟨-, hout, -, -, -⟩ :=
    ids_denoted_or_default ⟨"FSGROUP", fsGroup, 5000⟩ (by simp [idSettings]) lookup
  refine ⟨hseven, hnothing, hbeyond, ?_, ?_, ?_, ?_, ?_⟩
  · exact huser " +007\n" 7 rfl hseven (by omega) (by omega)
  · refine hnone fun raw n hraw => ?_
    obtain rfl : "1 2" = raw := Option.some.inj hraw
    exact hnothing n
  · exact hout "9223372036854775808" (2 ^ 63) rfl hbeyond (.inr (by omega))
  · exact hsame alone rfl
  · exact hwritten (-2 ^ 63) rfl (by omega) (by omega)

end Environment

end WorkflowPod.Operator
