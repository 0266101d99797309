import Mathlib.Order.Bounds.Image
import WorkflowPod.Proofs.Path.Reference
import WorkflowPod.Proofs.Text.Utf8

/-!
Where a reference is cut. Main statement: at the last colon with a character on both sides and no
backslash before it, which is the place where a search of the bytes from the end stops.
-/
namespace WorkflowPod.Path.Reference

open Text

section Separates

variable {α : Type} {colon backslash : α}

/-- A place that separates: a colon with something on both sides and no backslash before it. -/
def Separates (colon backslash : α) (s : List α) (i : Nat) : Prop :=
  0 < i ∧ i + 1 < s.length ∧ s[i]? = some colon ∧ s[i - 1]? ≠ some backslash

instance [DecidableEq α] (s : List α) (i : Nat) : Decidable (Separates colon backslash s i) :=
  inferInstanceAs (Decidable (_ ∧ _ ∧ _ ∧ _))

/-- The two halves around a separator. -/
theorem separates_iff {s : List α} {i : Nat} :
    Separates colon backslash s i ↔
      ∃ before after, s = before ++ colon :: after ∧ before.length = i ∧ before ≠ [] ∧
        before.getLast? ≠ some backslash ∧ after ≠ [] := by
  constructor
  · rintro ⟨hpos, hlt, hcolon, hbackslash⟩
    have hi : i < s.length := by omega
    have hget : s[i] = colon := by simpa [hi] using hcolon
    have hsplit : s = s.take i ++ colon :: s.drop (i + 1) := by
      rw [← hget, ← List.drop_eq_getElem_cons hi, List.take_append_drop]
    have hlength : (s.take i).length = i := List.length_take_of_le hi.le
    refine ⟨s.take i, s.drop (i + 1), hsplit, hlength, ?_, ?_, ?_⟩
    · exact List.ne_nil_of_length_pos (by omega)
    · rwa [List.getLast?_eq_getElem?, hlength, List.getElem?_take_of_lt (by omega)]
    · exact List.ne_nil_of_length_pos (by rw [List.length_drop]; omega)
  · rintro ⟨before, after, rfl, rfl, hbefore, hbackslash, hafter⟩
    have hpos := List.length_pos_iff.2 hbefore
    have hpos' := List.length_pos_iff.2 hafter
    rw [List.getLast?_eq_getElem?] at hbackslash
    refine ⟨hpos, by simp only [List.length_append, List.length_cons]; omega, by simp, ?_⟩
    rwa [List.getElem?_append_left (by omega)]

theorem not_separates_zero (s : List α) : ¬Separates colon backslash s 0 :=
  fun h => Nat.lt_irrefl 0 h.1

theorem separates_cons_one {c : α} {s : List α} :
    Separates colon backslash (c :: s) 1 ↔ c ≠ backslash ∧ ∃ d after, s = colon :: d :: after := by
  cases s with
  | nil => simp [Separates]
  | cons d s =>
    cases s with
    | nil => simp [Separates]
    | cons e s => simp [Separates, and_comm]

/-- Further on only what is before the first character is missing. -/
theorem separates_cons_succ {c : α} {s : List α} {i : Nat} :
    Separates colon backslash (c :: s) (i + 2) ↔ Separates colon backslash s (i + 1) := by
  simp [Separates]

end Separates

/-- The colons that separate. -/
def separators (s : List Char) : Set Nat := {i | Separates ':' '\\' s i}

theorem mem_separators_cons {c : Char} {s : List Char} {i : Nat} (hi : i ∈ separators (c :: s)) :
    (i = 1 ∧ c ≠ '\\' ∧ ∃ d after, s = ':' :: d :: after) ∨ ∃ j ∈ separators s, i = j + 1 := by
  match i, hi with
  | 0, hi => exact absurd hi (not_separates_zero _)
  | 1, hi => exact .inl ⟨rfl, separates_cons_one.1 hi⟩
  | j + 2, hi => exact .inr ⟨j + 1, separates_cons_succ.1 hi, rfl⟩

theorem succ_mem_separators {c : Char} {s : List Char} {i : Nat} (hi : i ∈ separators s) :
    i + 1 ∈ separators (c :: s) := by
  cases i with
  | zero => exact absurd hi (not_separates_zero _)
  | succ i => exact separates_cons_succ.2 hi

/-- The halves are those around the last separator, and there are none without one. -/
theorem cut?_spec (s : List Char) :
    match cut? s with
    | some (source, target) =>
      s = source ++ ':' :: target ∧ IsGreatest (separators s) source.length
    | none => separators s = ∅ := by
  induction s with
  | nil => exact Set.eq_empty_of_forall_notMem fun i hi => by simpa using hi.2.1
  | cons c s ih =>
    cases hcut : cut? s with
    | some halves =>
      obtain ⟨source, target⟩ := halves
      rw [hcut] at ih
      obtain ⟨hs, hmem, hmax⟩ := ih
      rw [cut?_cons_of_some hcut]
      refine ⟨by rw [hs, List.cons_append], succ_mem_separators hmem, fun i hi => ?_⟩
      rcases mem_separators_cons hi with ⟨rfl, -⟩ | ⟨j, hj, rfl⟩
      · simp
      · exact Nat.succ_le_succ (hmax hj)
    | none =>
      rw [hcut] at ih
      have hlater {i : Nat} (hi : i ∈ separators (c :: s)) :
          i = 1 ∧ c ≠ '\\' ∧ ∃ d after, s = ':' :: d :: after := by
        rcases mem_separators_cons hi with hfirst | ⟨j, hj, -⟩
        · exact hfirst
        · rw [ih] at hj
          exact absurd hj (Set.notMem_empty j)
      by_cases hfirst : c ≠ '\\' ∧ ∃ d after, s = ':' :: d :: after
      · obtain ⟨hc, d, after, rfl⟩ := hfirst
        rw [cut?_colon hcut hc (List.cons_ne_nil d after)]
        refine ⟨rfl, separates_cons_one.2 ⟨hc, d, after, rfl⟩, fun i hi => ?_⟩
        exact (hlater hi).1.le
      · have hnone : cut? (c :: s) = none := by
          unfold cut?
          rw [hcut]
          dsimp only
          split
          · rename_i d after
            exact if_pos (by_contra fun hc => hfirst ⟨hc, d, after, rfl⟩)
          · rfl
        rw [hnone]
        exact Set.eq_empty_of_forall_notMem fun i hi => hfirst (hlater hi).2

theorem of_cut?_eq_some {s source target : List Char} (h : cut? s = some (source, target)) :
    s = source ++ ':' :: target ∧ IsGreatest (separators s) source.length ∧
      source ≠ [] ∧ target ≠ [] := by
  have hspec := cut?_spec s
  rw [h] at hspec
  obtain ⟨hs, hgreatest⟩ := hspec
  obtain ⟨before, after, heq, hlength, hbefore, -, hafter⟩ := separates_iff.1 hgreatest.1
  obtain ⟨rfl, hrest⟩ := List.append_inj (heq.symm.trans hs) hlength
  obtain rfl := (List.cons.inj hrest).2
  exact ⟨hs, hgreatest, hbefore, hafter⟩

theorem of_cut?_eq_none {s : List Char} (h : cut? s = none) : separators s = ∅ := by
  have hspec := cut?_spec s
  rwa [h] at hspec

/-- The last separator among the bytes, looked for from the end. -/
def lastSeparator? (bytes : List UInt8) : Option Nat :=
  (List.range' 1 (bytes.length - 2)).reverse.find? fun i =>
    bytes[i]? == some 0x3A && bytes[i - 1]? != some 0x5C

/-- A search from the end stops at the greatest number it looks for. -/
theorem isGreatest_of_find? {p : Nat → Bool} {n i : Nat}
    (h : (List.range' 1 n).reverse.find? p = some i) :
    IsGreatest {j | 1 ≤ j ∧ j ≤ n ∧ p j} i := by
  induction n with
  | zero => simp at h
  | succ n ih =>
    rw [List.range'_1_concat, List.reverse_concat, List.find?_cons] at h
    split at h
    · rename_i hp
      cases h
      exact ⟨⟨by omega, by omega, hp⟩, fun j hj => by have := hj.2.1; omega⟩
    · rename_i hp
      obtain ⟨⟨hpos, hle, hi⟩, hmax⟩ := ih h
      refine ⟨⟨hpos, by omega, hi⟩, fun j hj => ?_⟩
      obtain ⟨hj1, hj2, hj3⟩ := hj
      have hne : j ≠ 1 + n := fun heq => by simp [← heq, hj3] at hp
      exact hmax ⟨hj1, by omega, hj3⟩

theorem separates_iff_inspected {b : List UInt8} {i : Nat} :
    Separates 0x3A 0x5C b i ↔
      1 ≤ i ∧ i ≤ b.length - 2 ∧ (b[i]? == some 0x3A && b[i - 1]? != some 0x5C) = true := by
  simp only [Separates, Bool.and_eq_true, beq_iff_eq, bne_iff_ne]
  constructor
  · rintro ⟨hpos, hlt, hbyte⟩
    exact ⟨hpos, by omega, hbyte⟩
  · rintro ⟨hpos, hle, hbyte⟩
    exact ⟨hpos, by omega, hbyte⟩

theorem isGreatest_of_lastSeparator? {b : List UInt8} {i : Nat} (h : lastSeparator? b = some i) :
    IsGreatest {j | Separates 0x3A 0x5C b j} i := by
  simp only [separates_iff_inspected]
  exact isGreatest_of_find? h

theorem lastSeparator?_eq_none_iff {b : List UInt8} :
    lastSeparator? b = none ↔ {j | Separates 0x3A 0x5C b j} = ∅ := by
  simp only [lastSeparator?, List.find?_eq_none, List.mem_reverse, List.mem_range'_1,
    Set.eq_empty_iff_forall_notMem, Set.mem_ofPred_eq, separates_iff_inspected, not_and]
  exact forall_congr' fun i => ⟨fun h h1 h2 => h ⟨h1, by omega⟩, fun h hi => h hi.1 (by omega)⟩

theorem bytes_append_colon (before after : List Char) :
    bytes (before ++ ':' :: after) = bytes before ++ 0x3A :: bytes after := by
  have hcolon : bytes [':'] = [0x3A] := bytes_ascii (by decide) (by decide)
  rw [List.append_cons, bytes_append, bytes_append, hcolon, List.append_assoc]
  rfl

/-- The bytes that separate are those of the colons that do. -/
theorem image_separators (s : List Char) :
    (fun i => (bytes (s.take i)).length) '' separators s =
      {j | Separates 0x3A 0x5C (bytes s) j} := by
  have hlast (t : List Char) : (bytes t).getLast? = some 0x5C ↔ t.getLast? = some '\\' :=
    getLast?_bytes_eq_some_iff (by decide) (by decide)
  ext j
  constructor
  · rintro ⟨i, hi, rfl⟩
    obtain ⟨before, after, rfl, rfl, hbefore, hbackslash, hafter⟩ := separates_iff.1 hi
    refine separates_iff.2 ⟨bytes before, bytes after, bytes_append_colon _ _, ?_, ?_, ?_, ?_⟩
    · simp
    · rwa [ne_eq, bytes_eq_nil_iff]
    · rwa [ne_eq, hlast]
    · rwa [ne_eq, bytes_eq_nil_iff]
  · intro hj
    obtain ⟨before, after, hs, rfl, hbefore, hbackslash, hafter⟩ := separates_iff.1 hj
    obtain ⟨lead, c, rest, rfl, rfl, hc, rfl⟩ := exists_of_bytes_eq (by decide) hs
    obtain rfl : c = ':' := Char.toNat_inj.1 hc
    rw [ne_eq, bytes_eq_nil_iff] at hbefore hafter
    rw [ne_eq, hlast] at hbackslash
    refine ⟨lead.length, separates_iff.2 ⟨lead, rest, rfl, rfl, hbefore, hbackslash, hafter⟩, ?_⟩
    simp

theorem monotone_bytes_take (s : List Char) : Monotone fun i => (bytes (s.take i)).length := by
  intro i j hij
  obtain ⟨rest, hrest⟩ := List.take_prefix_take_left (l := s) hij
  simp only [← hrest, bytes_append, List.length_append]
  exact Nat.le_add_right _ _

theorem lastSeparator?_bytes {s : List Char} {i : Nat} (h : IsGreatest (separators s) i) :
    lastSeparator? (bytes s) = some (bytes (s.take i)).length := by
  have himage := (monotone_bytes_take s).map_isGreatest h
  rw [image_separators] at himage
  cases hlast : lastSeparator? (bytes s) with
  | none =>
    have hnone := lastSeparator?_eq_none_iff.1 hlast
    rw [hnone] at himage
    exact absurd himage.1 (Set.notMem_empty _)
  | some j => rw [(isGreatest_of_lastSeparator? hlast).unique himage]

theorem unescapeColons_ne_nil {s : List Char} (h : s ≠ []) : unescapeColons s ≠ [] := by
  unfold unescapeColons
  split <;> simp_all

theorem unescapeBackslashes_ne_nil {s : List Char} (h : s ≠ []) : unescapeBackslashes s ≠ [] := by
  unfold unescapeBackslashes
  split <;> simp_all

/-- No text is made up of nothing but escapes that are dropped. -/
theorem unescape_ofList_ne_empty {s : List Char} (h : s ≠ []) :
    unescape (String.ofList s) ≠ "" := by
  have hne : unescapeChars s ≠ [] := unescapeBackslashes_ne_nil (unescapeColons_ne_nil h)
  rw [unescape, String.toList_ofList]
  exact fun hempty => hne (by simpa using congrArg String.toList hempty)

/-- The reference read from the bytes of a text, if these are not cut inside a character. -/
def parseBytes? (text : String) : Option Reference :=
  let bytes := text.toUTF8.data.toList
  match lastSeparator? bytes with
  | none => some ⟨unescape text, none⟩
  | some i => do
    let source ← String.fromUTF8? (bytes.take i).toByteArray
    let target ← String.fromUTF8? (bytes.drop (i + 1)).toByteArray
    return ⟨unescape source, some (unescape target)⟩

theorem parseBytes?_of_isGreatest {text : String} {source target : List Char}
    (htext : text.toList = source ++ ':' :: target)
    (h : IsGreatest (separators text.toList) source.length) :
    parseBytes? text =
      some ⟨unescape (String.ofList source), some (unescape (String.ofList target))⟩ := by
  have hbytes : bytes text.toList = bytes source ++ 0x3A :: bytes target := by
    rw [htext, bytes_append_colon]
  have hlast := lastSeparator?_bytes h
  have hsource : text.toList.take source.length = source := by rw [htext, List.take_left]
  rw [hsource] at hlast
  unfold parseBytes?
  dsimp only
  rw [toList_toUTF8, hlast]
  simp [hbytes, fromUTF8?_bytes]

/-- A reference has a target if and only if some colon separates. The last one that does is where it
is cut, as text and as bytes, and neither half is empty. -/
theorem parse_at_last_separator (text : String) :
    ((parse text).target.isSome ↔ ∃ i, Separates ':' '\\' text.toList i) ∧
    ((∃ i, Separates ':' '\\' text.toList i) →
      ∃ i, IsGreatest {i | Separates ':' '\\' text.toList i} i ∧
        let source := String.ofList (text.toList.take i)
        let target := String.ofList (text.toList.drop (i + 1))
        parse text = ⟨unescape source, some (unescape target)⟩ ∧
          unescape source ≠ "" ∧ unescape target ≠ "" ∧
          lastSeparator? text.toUTF8.data.toList = some source.utf8ByteSize) ∧
    ((∀ i, ¬Separates ':' '\\' text.toList i) →
      parse text = ⟨unescape text, none⟩ ∧ lastSeparator? text.toUTF8.data.toList = none) ∧
    parseBytes? text = some (parse text) := by
  have hbytes := toList_toUTF8 text
  cases hcut : cut? text.toList with
  | some halves =>
    obtain ⟨source, target⟩ := halves
    obtain ⟨htext, hgreatest, hsource, htarget⟩ := of_cut?_eq_some hcut
    have htake : text.toList.take source.length = source := by rw [htext, List.take_left]
    have hdrop : text.toList.drop (source.length + 1) = target := by
      rw [htext, List.drop_append]
      simp
    have hparse : parse text =
        ⟨unescape (String.ofList source), some (unescape (String.ofList target))⟩ := by
      rw [parse_of_cut?_some hcut, unescape, unescape, String.toList_ofList, String.toList_ofList]
    have hlast : lastSeparator? text.toUTF8.data.toList =
        some (String.ofList source).utf8ByteSize := by
      rw [hbytes, lastSeparator?_bytes hgreatest, htake, utf8ByteSize_ofList]
    have hexists : ∃ i, Separates ':' '\\' text.toList i := ⟨source.length, hgreatest.1⟩
    refine ⟨by simp [hparse, hexists], fun _ => ⟨source.length, hgreatest, ?_⟩,
      fun hnone => absurd hgreatest.1 (hnone _), ?_⟩
    · dsimp only
      rw [htake, hdrop]
      exact ⟨hparse, unescape_ofList_ne_empty hsource, unescape_ofList_ne_empty htarget, hlast⟩
    · rw [hparse]
      exact parseBytes?_of_isGreatest htext hgreatest
  | none =>
    have hempty := of_cut?_eq_none hcut
    have hnone (i : Nat) : ¬Separates ':' '\\' text.toList i :=
      Set.eq_empty_iff_forall_notMem.1 hempty i
    have hparse : parse text = ⟨unescape text, none⟩ := parse_of_cut?_none hcut
    have hlast : lastSeparator? text.toUTF8.data.toList = none := by
      rw [hbytes, lastSeparator?_eq_none_iff, ← image_separators, hempty, Set.image_empty]
    refine ⟨by simp [hparse, hnone], ?_, fun _ => ⟨hparse, hlast⟩, ?_⟩
    · rintro ⟨i, hi⟩
      exact absurd hi (hnone i)
    · rw [hparse]
      unfold parseBytes?
      dsimp only
      rw [hlast]

theorem parse_at_last_separator_multibyte :
    let text := "é\\::ü:名"
    let plain := "名\\:é:"
    (∃ i, Separates ':' '\\' text.toList i) ∧ (∀ i, ¬Separates ':' '\\' plain.toList i) ∧
      parse text = ⟨"é::ü", some "名"⟩ ∧ lastSeparator? text.toUTF8.data.toList = some 7 ∧
      parse plain = ⟨"名:é:", none⟩ ∧ lastSeparator? plain.toUTF8.data.toList = none := by
  intro text plain
  have hfive : Separates ':' '\\' text.toList 5 := by decide
  have hgreatest : IsGreatest {i | Separates ':' '\\' text.toList i} 5 := by
    refine ⟨hfive, fun i hi => ?_⟩
    have hlength : text.toList.length = 7 := by decide
    have hinner := hi.2.1
    omega
  have hnone (i : Nat) : ¬Separates ':' '\\' plain.toList i := by
    intro hi
    have hlength : plain.toList.length = 5 := by decide
    have hinner := hi.2.1
    have hall : ∀ j < 4, ¬Separates ':' '\\' plain.toList j := by decide
    exact hall i (by omega) hi
  obtain ⟨i, hi, hparse, -, -, hlast⟩ := (parse_at_last_separator text).2.1 ⟨5, hfive⟩
  obtain rfl := hi.unique hgreatest
  obtain ⟨hplain, hplainLast⟩ := (parse_at_last_separator plain).2.2.1 hnone
  exact ⟨⟨5, hfive⟩, hnone, hparse.trans (by decide), hlast.trans (by decide),
    hplain.trans (by decide), hplainLast⟩

end WorkflowPod.Path.Reference
