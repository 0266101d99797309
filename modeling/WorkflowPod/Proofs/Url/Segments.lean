import WorkflowPod.Proofs.Text.Split
import WorkflowPod.Url.Segments

/-!
Paths of URLs in normal form. Main statement: the normal form of a path is its own normal form, and
so is what is left of it without the slashes at its start.
-/
namespace WorkflowPod.Url

open Text

theorem percentEncode_of_forall {also s : List Char}
    (h : ∀ c ∈ s, isControlOrWide c = false ∧ c ∉ also) : percentEncode also s = s := by
  unfold percentEncode
  induction s with
  | nil => rfl
  | cons c s ih =>
    have hc := h c List.mem_cons_self
    have hs := ih fun d hd => h d (List.mem_cons_of_mem _ hd)
    rw [List.flatMap_cons, hs]
    simp [hc]

theorem exists_hexDigit_of_mem {width n : Nat} {c : Char} (h : c ∈ hexDigits width n) :
    ∃ d < 16, c = hexDigit d := by
  induction width generalizing n with
  | zero => simp [hexDigits] at h
  | succ width ih =>
    rw [hexDigits, List.mem_append, List.mem_singleton] at h
    obtain h | rfl := h
    · exact ih h
    · exact ⟨n % 16, Nat.mod_lt _ (by decide), rfl⟩

/-- A character that was kept, or part of the encoding of one that was not. -/
theorem mem_percentEncode {also s : List Char} {c : Char} (h : c ∈ percentEncode also s) :
    (c ∈ s ∧ isControlOrWide c = false ∧ c ∉ also) ∨ c = '%' ∨ ∃ d < 16, c = hexDigit d := by
  rw [percentEncode, List.mem_flatMap] at h
  obtain ⟨d, hd, h⟩ := h
  split at h
  · rw [percentTriplets, List.mem_flatMap] at h
    obtain ⟨byte, -, h⟩ := h
    obtain rfl | h := List.mem_cons.mp h
    · exact .inr (.inl rfl)
    · exact .inr (.inr (exists_hexDigit_of_mem h))
  · rename_i hkept
    obtain rfl := List.mem_singleton.mp h
    simp only [Bool.or_eq_true, not_or, Bool.not_eq_true, List.contains_eq_mem,
      decide_eq_false_iff_not] at hkept
    exact .inl ⟨hd, hkept⟩

/-- Whether a character stays as it is in a segment of a path. -/
def isSegmentChar (c : Char) : Bool :=
  !isControlOrWide c && !pathEscapes.contains c && c != '/' && c != '\\'

theorem isSegmentChar_hexDigit : ∀ d < 16, isSegmentChar (hexDigit d) := by decide

theorem isSegmentChar_of_mem_percentEncode {s : List Char} (h : '/' ∉ s ∧ '\\' ∉ s) {c : Char}
    (hc : c ∈ percentEncode pathEscapes s) : isSegmentChar c := by
  obtain ⟨hmem, hnarrow, hplain⟩ | rfl | ⟨d, hd, rfl⟩ := mem_percentEncode hc
  · have hslash : c ≠ '/' := fun heq => h.1 (heq ▸ hmem)
    have hbackslash : c ≠ '\\' := fun heq => h.2 (heq ▸ hmem)
    simp [isSegmentChar, *]
  · decide
  · exact isSegmentChar_hexDigit d hd

/-- A segment that the normal form keeps as it is. -/
structure IsSettled (segment : List Char) : Prop where
  enters : motion segment = .enter
  plain : ∀ c ∈ segment, isSegmentChar c

theorem isSettled_nil : IsSettled [] := ⟨rfl, by simp⟩

theorem IsSettled.percentEncode_eq {segment : List Char} (h : IsSettled segment) :
    percentEncode pathEscapes segment = segment := by
  refine percentEncode_of_forall fun c hc => ?_
  have hplain := h.plain c hc
  simp only [isSegmentChar, Bool.and_eq_true, Bool.not_eq_true', List.contains_eq_mem,
    decide_eq_false_iff_not] at hplain
  exact hplain.1.1

theorem IsSettled.not_mem_slash {segment : List Char} (h : IsSettled segment) :
    '/' ∉ segment := fun hmem => absurd (h.plain _ hmem) (by decide)

theorem mem_of_mem_leave {entered : List (List Char)} {segment : List Char}
    (h : segment ∈ leave entered) : segment ∈ entered := by
  cases entered with
  | nil => exact h
  | cons last rest =>
    rw [leave] at h
    split at h
    · exact h
    · exact List.mem_cons_of_mem _ h

/-- Whatever the segments do, the path consists of settled ones. -/
theorem exists_pathOf {entered segments : List (List Char)}
    (hentered : ∀ segment ∈ entered, IsSettled segment)
    (hplain : ∀ segment ∈ segments, ∀ c ∈ segment, isSegmentChar c) :
    ∃ settled ≠ [], (∀ segment ∈ settled, IsSettled segment) ∧
      pathOf entered segments = ['/'].intercalate settled := by
  have hending (entered : List (List Char)) (hentered : ∀ segment ∈ entered, IsSettled segment)
      {last : List Char} (hlast : IsSettled last) :
      ∃ settled ≠ [], (∀ segment ∈ settled, IsSettled segment) ∧
        entered.reverse.flatMap (· ++ ['/']) ++ last = ['/'].intercalate settled := by
    refine ⟨entered.reverse ++ [last], by simp, ?_, flatMap_append_eq_intercalate _ _⟩
    intro segment hsegment
    obtain hmem | hmem := List.mem_append.mp hsegment
    · exact hentered segment (List.mem_reverse.mp hmem)
    · rwa [List.mem_singleton.mp hmem]
  have hleave {entered : List (List Char)} (hentered : ∀ segment ∈ entered, IsSettled segment) :
      ∀ segment ∈ leave entered, IsSettled segment :=
    fun segment hsegment => hentered segment (mem_of_mem_leave hsegment)
  induction segments generalizing entered with
  | nil => exact ⟨[[]], by simp, by simpa using isSettled_nil, rfl⟩
  | cons segment rest ih =>
    have hsegment := hplain segment List.mem_cons_self
    have hrest : ∀ segment ∈ rest, ∀ c ∈ segment, isSegmentChar c :=
      fun segment hmem => hplain segment (List.mem_cons_of_mem _ hmem)
    cases hmotion : motion segment with
    | stay =>
      cases rest with
      | nil =>
        simp only [pathOf, hmotion]
        exact hending _ hentered isSettled_nil
      | cons next rest =>
        simp only [pathOf, hmotion]
        exact ih hentered hrest
    | up =>
      cases rest with
      | nil =>
        simp only [pathOf, hmotion]
        exact hending _ (hleave hentered) isSettled_nil
      | cons next rest =>
        simp only [pathOf, hmotion]
        exact ih (hleave hentered) hrest
    | enter =>
      have hsettled : IsSettled segment := ⟨hmotion, hsegment⟩
      cases rest with
      | nil =>
        simp only [pathOf, hmotion]
        exact hending _ hentered hsettled
      | cons next rest =>
        simp only [pathOf, hmotion]
        refine ih (fun other hother => ?_) hrest
        obtain rfl | hmem := List.mem_cons.mp hother
        · exact hsettled
        · exact hentered other hmem

theorem pathOf_of_settled {entered segments : List (List Char)} (hne : segments ≠ [])
    (h : ∀ segment ∈ segments, IsSettled segment) :
    pathOf entered segments = ['/'].intercalate (entered.reverse ++ segments) := by
  induction segments generalizing entered with
  | nil => exact absurd rfl hne
  | cons segment rest ih =>
    have henters := (h segment List.mem_cons_self).enters
    have hrest : ∀ segment ∈ rest, IsSettled segment :=
      fun segment hmem => h segment (List.mem_cons_of_mem _ hmem)
    cases rest with
    | nil =>
      simp only [pathOf, henters]
      exact flatMap_append_eq_intercalate _ _
    | cons next rest =>
      simp only [pathOf, henters]
      rw [ih (by simp) hrest, List.reverse_cons, List.append_assoc, List.singleton_append]

/-- A path without its leading slash all of whose segments are settled. -/
def IsNormalPath (path : List Char) : Prop := ∀ segment ∈ path.splitOn '/', IsSettled segment

/-- The segments of a path before they are resolved. -/
theorem exists_normalPath (s : List Char) :
    ∃ segments, (∀ segment ∈ segments, ∀ c ∈ segment, isSegmentChar c) ∧
      normalPath true s = pathOf [] segments := by
  unfold normalPath
  dsimp only
  rw [if_pos rfl]
  have hslashed : '\\' ∉ s.map fun c => if c == '\\' then '/' else c := by
    rw [List.mem_map]
    rintro ⟨c, -, hc⟩
    split at hc
    · exact absurd hc (by decide)
    · simp_all
  generalize s.map (fun c => if c == '\\' then '/' else c) = slashed at hslashed
  refine ⟨_, ?_, rfl⟩
  intro segment hsegment c hc
  obtain ⟨piece, hpiece, rfl⟩ := List.mem_map.mp hsegment
  refine isSegmentChar_of_mem_percentEncode ⟨not_mem_of_mem_splitOn hpiece, fun hmem => ?_⟩ hc
  have hpath := mem_of_mem_splitOn hpiece hmem
  split at hpath
  · exact hslashed (List.mem_cons_of_mem _ hpath)
  · exact hslashed hpath

theorem isNormalPath_normalPath (s : List Char) : IsNormalPath (normalPath true s) := by
  obtain ⟨segments, hplain, hsegments⟩ := exists_normalPath s
  obtain ⟨settled, hne, hsettled, heq⟩ := exists_pathOf (List.forall_mem_nil _) hplain
  have hslash : ∀ segment ∈ settled, '/' ∉ segment :=
    fun segment hmem => (hsettled segment hmem).not_mem_slash
  intro segment hsegment
  rw [hsegments, heq, List.splitOn_intercalate '/' hslash hne] at hsegment
  exact hsettled segment hsegment

namespace IsNormalPath

variable {path : List Char}

theorem isSegmentChar_of_mem (h : IsNormalPath path) {c : Char} (hc : c ∈ path) :
    c = '/' ∨ isSegmentChar c := by
  obtain hc | ⟨segment, hsegment, hc⟩ := eq_or_exists_mem_splitOn (x := '/') hc
  · exact .inl hc
  · exact .inr ((h segment hsegment).plain c hc)

theorem toNat_of_mem (h : IsNormalPath path) {c : Char} (hc : c ∈ path) : 0x20 < c.toNat := by
  obtain rfl | hc := h.isSegmentChar_of_mem hc
  · decide
  · have hblank : c.toNat ≠ 0x20 := by
      intro heq
      have hspace : c = ' ' := by rw [← Char.ofNat_toNat c, heq]
      rw [hspace] at hc
      exact absurd hc (by decide)
    simp only [isSegmentChar, isControlOrWide, Bool.and_eq_true, Bool.not_eq_true',
      Bool.or_eq_false_iff, decide_eq_false_iff_not] at hc
    omega

/-- A path in normal form is its own normal form. -/
theorem normalPath_eq (h : IsNormalPath path) : normalPath true ('/' :: path) = path := by
  have hslashed : ('/' :: path).map (fun c => if c == '\\' then '/' else c) = '/' :: path := by
    refine List.map_congr_left (g := id) ?_ |>.trans (List.map_id _)
    intro c hc
    have hbackslash : c ≠ '\\' := by
      obtain rfl | hc := List.mem_cons.mp hc
      · decide
      · obtain rfl | hc := h.isSegmentChar_of_mem hc
        · decide
        · rintro rfl
          exact absurd hc (by decide)
    simp [hbackslash]
  have hencoded : (path.splitOn '/').map (percentEncode pathEscapes) = path.splitOn '/' := by
    refine List.map_congr_left (g := id) ?_ |>.trans (List.map_id _)
    exact fun segment hsegment => (h segment hsegment).percentEncode_eq
  have hpath : ['/'].intercalate (path.splitOn '/') = path := List.intercalate_splitOn '/'
  simp only [normalPath, if_true, hslashed, hencoded]
  rw [pathOf_of_settled (List.splitOn_ne_nil _ _) h, List.reverse_nil, List.nil_append, hpath]

/-- It stays in normal form when slashes at its start are taken off. -/
theorem dropWhile (h : IsNormalPath path) : IsNormalPath (path.dropWhile (· == '/')) := by
  induction path with
  | nil => exact h
  | cons c path ih =>
    rw [List.dropWhile_cons]
    split
    · rename_i hc
      refine ih fun segment hsegment => h segment ?_
      obtain rfl := eq_of_beq hc
      rw [List.splitOn, List.splitOnP_cons_eq_if_modifyHead, if_pos (by simp)]
      exact List.mem_cons_of_mem _ hsegment
    · exact h

end IsNormalPath

end WorkflowPod.Url
