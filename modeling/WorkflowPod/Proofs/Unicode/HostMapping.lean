import WorkflowPod.Proofs.Unicode.Normal
import WorkflowPod.Unicode.HostMapping

/-!
What the mapping of host names leaves as it is. Whatever it puts in place of a character it leaves
as it is itself, and a composed character stays if and only if its parts do.
-/
namespace WorkflowPod.Unicode

open Table

/-- The characters in one of the tables of a mapping, and capital letters. -/
def movedPoints (shifts alternations replacements exclusions : List Run) : Nat :=
  covered shifts ||| coveredEvery alternations ||| covered replacements ||| covered exclusions |||
    interval 0x41 26

/-- What the tables keep to: none of the characters they put in place of others is in them, nor is a
Hangul syllable or a letter of one. -/
def isClosed (shifts alternations replacements exclusions compositions : List Run) : Bool :=
  let moved := movedPoints shifts alternations replacements exclusions
  isClear moved 0 0x41 && isClear moved 0x5B 0x25 &&
  shifts.all (fun run => isClear moved run.value (run.last + 1 - run.first)) &&
  alternations.all (fun run => (List.range ((run.last - run.first) / 2 + 1)).all fun k =>
    isClear moved (run.value + 2 * k) 1) &&
  replacements.all (fun run => run.values.all fun n => isClear moved n 1) &&
  isClear moved 0x1100 19 && isClear moved 0x1161 21 && isClear moved 0x11A8 27 &&
  isClear moved 0xAC00 11172 &&
  compositions.all fun run => isClear moved run.first 1 == run.values.all fun n => isClear moved n 1

theorem isClosed_read {shifts alternations replacements exclusions compositions : List String}
    {shifts' alternations' replacements' exclusions' compositions' : List (List Char)}
    (hshifts : Spelled shifts shifts') (halternations : Spelled alternations alternations')
    (hreplacements : Spelled replacements replacements')
    (hexclusions : Spelled exclusions exclusions') (hcompositions : Spelled compositions compositions')
    (h : isClosed (readRuns shifts') (readRuns alternations') (readRuns replacements')
      (readRuns exclusions') (readRuns compositions') = true) :
    isClosed (read shifts).runs.toList (read alternations).runs.toList
      (read replacements).runs.toList (read exclusions).runs.toList
      (read compositions).runs.toList = true := by
  rw [hshifts.runs_read, halternations.runs_read, hreplacements.runs_read, hexclusions.runs_read,
    hcompositions.runs_read]
  exact h

theorem isClosed_tables :
    isClosed hostShifts.runs.toList hostAlternations.runs.toList hostReplacements.runs.toList
      hostExclusions.runs.toList compositions.runs.toList = true := by
  unfold hostShifts hostAlternations hostReplacements hostExclusions compositions
  apply isClosed_read
  · repeat constructor
  · repeat constructor
  · repeat constructor
  · repeat constructor
  · repeat constructor
  · decide +kernel

namespace Mapping

/-- The characters that a mapping changes or refuses. -/
def moved (mapping : Mapping) : Nat :=
  movedPoints mapping.shifts.runs.toList mapping.alternations.runs.toList
    mapping.replacements.runs.toList mapping.exclusions.runs.toList

/-- Whether a mapping leaves a character as it is. -/
def IsFixed (mapping : Mapping) (c : Char) : Prop := mapping.moved.testBit c.toNat = false

/-- What the tables keep to, part by part. -/
structure IsClosed (mapping : Mapping) : Prop where
  start : isClear mapping.moved 0 0x41 = true
  lower : isClear mapping.moved 0x5B 0x25 = true
  shifts : ∀ run ∈ mapping.shifts.runs.toList,
    isClear mapping.moved run.value (run.last + 1 - run.first) = true
  alternations : ∀ run ∈ mapping.alternations.runs.toList,
    ∀ k < (run.last - run.first) / 2 + 1, isClear mapping.moved (run.value + 2 * k) 1 = true
  replacements : ∀ run ∈ mapping.replacements.runs.toList, ∀ n ∈ run.values,
    isClear mapping.moved n 1 = true
  leads : isClear mapping.moved 0x1100 19 = true
  vowels : isClear mapping.moved 0x1161 21 = true
  tails : isClear mapping.moved 0x11A8 27 = true
  syllables : isClear mapping.moved 0xAC00 11172 = true
  compositions : ∀ run ∈ compositions.runs.toList,
    isClear mapping.moved run.first 1 = run.values.all fun n => isClear mapping.moved n 1

theorem isClosed_of_tables {mapping : Mapping}
    (h : Unicode.isClosed mapping.shifts.runs.toList mapping.alternations.runs.toList
      mapping.replacements.runs.toList mapping.exclusions.runs.toList
      compositions.runs.toList = true) : mapping.IsClosed := by
  simp only [isClosed, Bool.and_eq_true, List.all_eq_true, List.mem_range, beq_iff_eq,
    ← moved.eq_def] at h
  obtain ⟨⟨⟨⟨⟨⟨⟨⟨⟨h1, h2⟩, h3⟩, h4⟩, h5⟩, h6⟩, h7⟩, h8⟩, h9⟩, h10⟩ := h
  exact ⟨h1, h2, h3, h4, h5, h6, h7, h8, h9, h10⟩

theorem isClosed_hostMapping : hostMapping.IsClosed := isClosed_of_tables isClosed_tables

variable {mapping : Mapping} {c : Char}

theorem isFixed_iff :
    mapping.IsFixed c ↔ mapping.shifts.find? c.toNat = none ∧
      mapping.alternations.findEvery? c.toNat = none ∧ mapping.replacements.find? c.toNat = none ∧
        mapping.exclusions.find? c.toNat = none ∧ ¬(0x41 ≤ c.toNat ∧ c.toNat ≤ 0x5A) := by
  have hcapital : (0x41 ≤ c.toNat ∧ c.toNat < 0x41 + 26) ↔ (0x41 ≤ c.toNat ∧ c.toNat ≤ 0x5A) := by
    omega
  rw [IsFixed, moved, movedPoints, Nat.testBit_or, Nat.testBit_or, Nat.testBit_or, Nat.testBit_or,
    testBit_interval, Bool.or_eq_false_iff, Bool.or_eq_false_iff, Bool.or_eq_false_iff,
    Bool.or_eq_false_iff, decide_eq_false_iff_not, hcapital, ← find?_eq_none_iff,
    ← findEvery?_eq_none_iff, ← find?_eq_none_iff, ← find?_eq_none_iff, and_assoc, and_assoc,
    and_assoc]

theorem isFixed_of_isClear {first count : Nat} (h : isClear mapping.moved first count = true)
    (hfirst : first ≤ c.toNat) (hcount : c.toNat < first + count) : mapping.IsFixed c :=
  testBit_of_isClear h hfirst hcount

theorem isClear_one (n : Nat) : isClear mapping.moved n 1 = !mapping.moved.testBit n := by
  rw [isClear, Nat.one_shiftLeft, Nat.pow_one, Nat.testBit_eq_decide_div_mod_eq, Nat.shiftRight_eq_div_pow]
  have hbit := Nat.mod_two_eq_zero_or_one (mapping.moved / 2 ^ n)
  obtain hbit | hbit := hbit <;> simp [hbit]

namespace IsClosed

variable (h : mapping.IsClosed)
include h

theorem isFixed_ofNat {n : Nat} (hn : mapping.moved.testBit n = false) :
    mapping.IsFixed (Char.ofNat n) := by
  obtain heq | heq := toNat_ofNat_eq_or n
  · rw [IsFixed, heq]
    exact hn
  · exact isFixed_of_isClear h.start (Nat.zero_le _) (by omega)

/-- Of the characters of ASCII all but the capital letters are fixed. -/
theorem isFixed_of_plain (hplain : c.toNat < 0x80) (hcapital : ¬(0x41 ≤ c.toNat ∧ c.toNat ≤ 0x5A)) :
    mapping.IsFixed c := by
  by_cases hlow : c.toNat < 0x41
  · exact isFixed_of_isClear h.start (Nat.zero_le _) (by omega)
  · exact isFixed_of_isClear h.lower (by omega) (by omega)

end IsClosed

theorem toLower_of_plain {n : Nat} (h : n < 0x80) :
    (Char.ofNat n).toLower.toNat < 0x80 ∧
      ¬(0x41 ≤ (Char.ofNat n).toLower.toNat ∧ (Char.ofNat n).toLower.toNat ≤ 0x5A) ∧
      (¬(0x41 ≤ n ∧ n ≤ 0x5A) → (Char.ofNat n).toLower = Char.ofNat n) := by
  revert n
  decide

theorem char?_of_isFixed (h : mapping.IsFixed c) : mapping.char? c = some [c] := by
  obtain ⟨hshift, halternation, hreplacement, hexclusion, hcapital⟩ := isFixed_iff.mp h
  simp only [char?, hshift, halternation, hreplacement, hexclusion, Option.isSome_none,
    Bool.false_eq_true, if_false, ite_eq_right_iff]
  intro hplain
  have hlower := (toLower_of_plain hplain).2.2 hcapital
  rw [Char.ofNat_toNat] at hlower
  rw [hlower]

/-- What the mapping puts in place of a character is fixed. -/
theorem IsClosed.isFixed_of_mem_char? (hclosed : mapping.IsClosed) {text : List Char}
    (h : mapping.char? c = some text) : ∀ d ∈ text, mapping.IsFixed d := by
  unfold char? at h
  dsimp only at h
  split at h
  · rename_i hplain
    obtain ⟨hlower, hcapital, -⟩ := toLower_of_plain hplain
    rw [Char.ofNat_toNat] at hlower hcapital
    obtain rfl := Option.some.inj h
    exact List.forall_mem_singleton.mpr (hclosed.isFixed_of_plain hlower hcapital)
  split at h
  · rename_i run hfind
    obtain ⟨hrun, hfirst, hlast⟩ := mem_of_find? hfind
    obtain rfl := Option.some.inj h
    have hclear := testBit_of_isClear (hclosed.shifts run hrun)
      (Nat.le_add_right run.value (c.toNat - run.first)) (by omega)
    exact List.forall_mem_singleton.mpr (hclosed.isFixed_ofNat hclear)
  split at h
  · rename_i run hfind
    obtain ⟨hrun, hfirst, hlast, heven⟩ := mem_of_findEvery? hfind
    obtain rfl := Option.some.inj h
    have hhalf : 2 * ((c.toNat - run.first) / 2) = c.toNat - run.first := by omega
    have hclear := hclosed.alternations run hrun ((c.toNat - run.first) / 2) (by omega)
    rw [hhalf, isClear_one, Bool.not_eq_true'] at hclear
    exact List.forall_mem_singleton.mpr (hclosed.isFixed_ofNat hclear)
  split at h
  · rename_i run hfind
    obtain ⟨hrun, -⟩ := mem_of_find? hfind
    obtain rfl := Option.some.inj h
    intro d hd
    obtain ⟨n, hn, rfl⟩ := List.mem_map.mp hd
    have hclear := hclosed.replacements run hrun n hn
    rw [isClear_one, Bool.not_eq_true'] at hclear
    exact hclosed.isFixed_ofNat hclear
  split at h
  · cases h
  · rename_i hwide _ hshift _ halternation _ hreplacement hexclusion
    obtain rfl := Option.some.inj h
    refine List.forall_mem_singleton.mpr (isFixed_iff.mpr ⟨?_, ?_, ?_, ?_, by omega⟩)
    · exact Option.eq_none_iff_forall_ne_some.mpr hshift
    · exact Option.eq_none_iff_forall_ne_some.mpr halternation
    · exact Option.eq_none_iff_forall_ne_some.mpr hreplacement
    · simpa using hexclusion

/-- A composed character is fixed if and only if its parts are. -/
theorem IsClosed.isFixed_iff_of_isComposed (h : mapping.IsClosed) {a b : Char}
    (hcomposed : IsComposed c a b) : mapping.IsFixed c ↔ mapping.IsFixed a ∧ mapping.IsFixed b := by
  cases hcomposed with
  | pair l v hl hv hc ha hb =>
    exact iff_of_true (isFixed_of_isClear h.syllables (by omega) (by omega))
      ⟨isFixed_of_isClear h.leads (by omega) (by omega),
        isFixed_of_isClear h.vowels (by omega) (by omega)⟩
  | closed s t hs hpos ht hc ha hb =>
    exact iff_of_true (isFixed_of_isClear h.syllables (by omega) (by omega))
      ⟨isFixed_of_isClear h.syllables (by omega) (by omega),
        isFixed_of_isClear h.tails (by omega) (by omega)⟩
  | listed hlisted =>
    obtain ⟨run, hrun, hfirst, -, hvalues⟩ := hlisted.run
    have hsame := h.compositions run hrun
    rw [hfirst, hvalues] at hsame
    simp only [isClear_one, List.all_cons, List.all_nil, Bool.and_true] at hsame
    simp only [IsFixed, ← Bool.not_eq_true', hsame, Bool.and_eq_true]

end Mapping

theorem mapHostChars?_of_isFixed {s : List Char} (h : ∀ c ∈ s, hostMapping.IsFixed c) :
    mapHostChars? s = some s := by
  have hmap : s.mapM hostMapping.char? = some (s.map fun c => [c]) := by
    induction s with
    | nil => rfl
    | cons c s ih =>
      rw [List.mapM_cons, Mapping.char?_of_isFixed (h c List.mem_cons_self),
        ih fun d hd => h d (List.mem_cons_of_mem _ hd)]
      rfl
  rw [mapHostChars?, hmap, Option.map_some, ← List.flatMap_def, List.flatMap_singleton']

end WorkflowPod.Unicode
