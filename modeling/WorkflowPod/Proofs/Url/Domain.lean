import WorkflowPod.Proofs.Text.Search
import WorkflowPod.Proofs.Unicode.HostMapping
import WorkflowPod.Proofs.Url.Address
import WorkflowPod.Proofs.Url.Punycode
import WorkflowPod.Url.Domain

/-!
The ASCII form of a host name. Main statement: it is its own ASCII form if and only if none of its
labels in Punycode is longer than what is decoded.
-/
namespace WorkflowPod.Url.Domain

open Text Unicode Table

theorem isFixed_of_canonical? {s canonical : List Char} (h : canonical? s = some canonical) :
    ∀ c ∈ canonical, hostMapping.IsFixed c := by
  obtain ⟨mapped, hmapped, rfl⟩ := Option.map_eq_some_iff.mp h
  obtain ⟨texts, htexts, rfl⟩ := Option.map_eq_some_iff.mp hmapped
  refine forall_mem_normalize (fun c a b hcomposed => ?_) (fun c a b hcomposed ha hb => ?_) ?_
  · exact (Mapping.isClosed_hostMapping.isFixed_iff_of_isComposed hcomposed).mp
  · exact (Mapping.isClosed_hostMapping.isFixed_iff_of_isComposed hcomposed).mpr ⟨ha, hb⟩
  · intro c hc
    obtain ⟨text, htext, hc⟩ := List.mem_flatten.mp hc
    obtain ⟨d, -, hd⟩ := exists_of_mem_mapM htexts htext
    exact Mapping.isClosed_hostMapping.isFixed_of_mem_char? hd c hc

theorem canonical?_of_isFixed {s : List Char} (h : ∀ c ∈ s, hostMapping.IsFixed c) :
    canonical? s = some (normalize s) := by
  rw [canonical?, mapHostChars?_of_isFixed h, Option.map_some]

/-- The labels of a canonical name are canonical. -/
theorem canonical?_of_mem_splitOn {s canonical piece : List Char}
    (h : canonical? s = some canonical) (hpiece : piece ∈ canonical.splitOn '.') :
    canonical? piece = some piece := by
  have hfixed := isFixed_of_canonical? h
  obtain ⟨mapped, -, rfl⟩ := Option.map_eq_some_iff.mp h
  generalize hpieces : (normalize mapped).splitOn '.' = pieces at hpiece
  have hjoin : ['.'].intercalate pieces = normalize mapped := by
    rw [← hpieces, List.intercalate_splitOn]
  have hdot : ∀ label ∈ pieces.map normalize, '.' ∉ label := by
    intro label hlabel
    obtain ⟨piece, hpiece, rfl⟩ := List.mem_map.mp hlabel
    exact dot_not_mem_normalize (not_mem_of_mem_splitOn (hpieces ▸ hpiece))
  have hne : pieces ≠ [] := hpieces ▸ List.splitOn_ne_nil _ _
  have hnormal : pieces.map normalize = pieces := by
    calc pieces.map normalize
        = (['.'].intercalate (pieces.map normalize)).splitOn '.' :=
          (List.splitOn_intercalate '.' hdot (by simpa using hne)).symm
      _ = (normalize (normalize mapped)).splitOn '.' := by
          rw [← normalize_intercalate isSeparator_dot, hjoin]
      _ = pieces := by rw [normalize_normalize, hpieces]
  have hself : normalize piece = piece :=
    List.map_inj_left.mp (hnormal.trans (List.map_id pieces).symm) piece hpiece
  rw [canonical?_of_isFixed fun c hc => hfixed c (mem_of_mem_splitOn (hpieces ▸ hpiece) hc), hself]

/-- The characters of names in ASCII. -/
structure IsNameChar (c : Char) : Prop where
  plain : c.toNat < 0x80
  lower : ¬(0x41 ≤ c.toNat ∧ c.toNat ≤ 0x5A)
  allowed : isForbidden c = false

theorem canonical?_of_isNameChar {s : List Char} (h : ∀ c ∈ s, IsNameChar c) :
    canonical? s = some s := by
  have hfixed : ∀ c ∈ s, hostMapping.IsFixed c := fun c hc =>
    Mapping.isClosed_hostMapping.isFixed_of_plain (h c hc).plain (h c hc).lower
  have hinert : ∀ c ∈ s, IsInert c := fun c hc => isInert_of_plain (h c hc).plain
  rw [canonical?_of_isFixed hfixed, normalize_of_isInert hinert]

theorem isPlain_of_isNameChar {s : List Char} (h : ∀ c ∈ s, IsNameChar c) : isPlain s = true := by
  simpa [isPlain] using fun c hc => (h c hc).plain

theorem isNameChar_dot : IsNameChar '.' := ⟨by decide, by decide, by decide⟩

theorem isNameChar_of_mem_mark : ∀ c ∈ mark, IsNameChar c := by
  simp only [mark, List.forall_mem_cons]
  exact ⟨⟨by decide, by decide, by decide⟩, ⟨by decide, by decide, by decide⟩,
    ⟨by decide, by decide, by decide⟩, ⟨by decide, by decide, by decide⟩, by simp⟩

theorem isNameChar_digit {d : Nat} (h : d < 36) : IsNameChar (Punycode.digit d) := by
  have hchar : ∀ d < 36, (Punycode.digit d).toNat < 0x80 ∧
      ¬(0x41 ≤ (Punycode.digit d).toNat ∧ (Punycode.digit d).toNat ≤ 0x5A) ∧
      isForbidden (Punycode.digit d) = false := by decide
  obtain ⟨hplain, hlower, hallowed⟩ := hchar d h
  exact ⟨hplain, hlower, hallowed⟩

theorem digit_ne_dot : ∀ d < 36, Punycode.digit d ≠ '.' := by decide

/-- The labels of which a name consists. One in ASCII is not taken for one in Punycode. -/
structure IsLabel (label : List Char) : Prop where
  canonical : canonical? label = some label
  acceptable : isAcceptable label = true
  unmarked : isPlain label = true → afterLead? mark label = none

theorem length_of_decodeLabel? {encoded label : List Char} (h : decodeLabel? encoded = some label) :
    encoded.length ≤ 2000 := by
  unfold decodeLabel? at h
  obtain ⟨_, hlength, -⟩ := Option.bind_eq_some_iff.mp h
  simpa [guard] using hlength

theorem canonical?_of_decodeLabel? {encoded label : List Char}
    (h : decodeLabel? encoded = some label) :
    isPlain label = false ∧ canonical? label = some label := by
  unfold decodeLabel? at h
  obtain ⟨_, -, h⟩ := Option.bind_eq_some_iff.mp h
  obtain ⟨decoded, -, h⟩ := Option.bind_eq_some_iff.mp h
  obtain ⟨_, hguard, ⟨⟩⟩ := Option.bind_eq_some_iff.mp h
  simpa [guard] using hguard

theorem decodeLabel?_encode {label : List Char} (hwide : isPlain label = false)
    (hcanonical : canonical? label = some label) (hlength : (Punycode.encode label).length ≤ 2000) :
    decodeLabel? (Punycode.encode label) = some label := by
  simp [decodeLabel?, guard, Punycode.decode?_encode, hwide, hcanonical, hlength]

theorem isLabel_of_label? {piece label : List Char} (hpiece : canonical? piece = some piece)
    (h : label? piece = some label) (hacceptable : isAcceptable label = true) : IsLabel label := by
  unfold label? at h
  split at h
  · split at h
    · obtain ⟨hwide, hcanonical⟩ := canonical?_of_decodeLabel? h
      refine ⟨hcanonical, hacceptable, fun hplain => ?_⟩
      rw [hwide] at hplain
      cases hplain
    · cases h
  · rename_i hunmarked
    cases h
    exact ⟨hpiece, hacceptable, fun _ => hunmarked⟩

namespace IsLabel

variable {label ascii : List Char} (h : IsLabel label)
include h

theorem isForbidden_eq {c : Char} (hc : c ∈ label) : isForbidden c = false := by
  have hacceptable := h.acceptable
  simp only [isAcceptable, Bool.and_eq_true, Bool.not_eq_true', List.any_eq_false] at hacceptable
  simpa using hacceptable.1.1.1 c hc

theorem dot_not_mem : '.' ∉ label := by
  have hacceptable := h.acceptable
  simp only [isAcceptable, Bool.and_eq_true, Bool.not_eq_true'] at hacceptable
  simpa using hacceptable.1.1.2

theorem isNameChar_of_plain {c : Char} (hc : c ∈ label) (hplain : c.toNat < 0x80) :
    IsNameChar c := by
  have hfixed := isFixed_of_canonical? h.canonical c hc
  exact ⟨hplain, (Mapping.isFixed_iff.mp hfixed).2.2.2.2, h.isForbidden_eq hc⟩

theorem isNameChar_of_labelToAscii? (hascii : labelToAscii? label = some ascii) :
    ∀ c ∈ ascii, IsNameChar c ∧ c ≠ '.' := by
  intro c hc
  unfold labelToAscii? at hascii
  split at hascii
  · rename_i hplain
    cases hascii
    have hc' : c.toNat < 0x80 := by simpa using List.all_eq_true.mp hplain c hc
    exact ⟨h.isNameChar_of_plain hc hc', fun heq => h.dot_not_mem (heq ▸ hc)⟩
  · split at hascii
    · cases hascii
      obtain hc | hc := List.mem_append.mp hc
      · refine ⟨isNameChar_of_mem_mark c hc, ?_⟩
        rintro rfl
        exact absurd hc (by decide)
      · obtain ⟨hc, hplain⟩ | rfl | ⟨d, hd, rfl⟩ := Punycode.mem_encode hc
        · exact ⟨h.isNameChar_of_plain hc hplain, fun heq => h.dot_not_mem (heq ▸ hc)⟩
        · exact ⟨⟨by decide, by decide, by decide⟩, by decide⟩
        · exact ⟨isNameChar_digit hd, digit_ne_dot d hd⟩
    · cases hascii

/-- A label is read back from its ASCII form. -/
theorem label?_of_labelToAscii? (hascii : labelToAscii? label = some ascii)
    (hshort : ∀ encoded, ascii = mark ++ encoded → encoded.length ≤ 2000) :
    label? ascii = some label := by
  have hchars := h.isNameChar_of_labelToAscii? hascii
  unfold labelToAscii? at hascii
  split at hascii
  · rename_i hplain
    cases hascii
    rw [label?, h.unmarked hplain]
  · rename_i hwide
    split at hascii
    · cases hascii
      have hplain := isPlain_of_isNameChar fun c hc => (hchars c hc).1
      rw [Bool.not_eq_true] at hwide
      rw [label?, afterLead?_append]
      dsimp only
      rw [if_pos hplain, decodeLabel?_encode hwide h.canonical (hshort _ rfl)]
    · cases hascii

end IsLabel

/-- The labels may be together in a name: if one has characters that are written from the right, the
direction of each is clear. -/
def AreDirected (labels : List (List Char)) : Prop :=
  ∀ label ∈ labels, ∀ c ∈ label, (direction c).isBidirectional = true →
    ∀ other ∈ labels, hasClearDirection other = true

theorem toAscii?_eq_some_iff {name text : List Char} :
    toAscii? name = some text ↔ ∃ canonical labels ascii, canonical? name = some canonical ∧
      (canonical.splitOn '.').mapM label? = some labels ∧
        (∀ label ∈ labels, isAcceptable label = true) ∧ AreDirected labels ∧
          labels.mapM labelToAscii? = some ascii ∧ ['.'].intercalate ascii = text := by
  simp [toAscii?, AreDirected, guard, Option.bind_eq_some_iff]

/-- What the ASCII form of a name is made of. -/
structure IsForm (text : List Char) (labels ascii : List (List Char)) : Prop where
  isLabel : ∀ label ∈ labels, IsLabel label
  ne_nil : labels ≠ []
  directed : AreDirected labels
  mapM_eq : labels.mapM labelToAscii? = some ascii
  text_eq : ['.'].intercalate ascii = text

theorem exists_isForm {name text : List Char} (h : toAscii? name = some text) :
    ∃ labels ascii, IsForm text labels ascii := by
  obtain ⟨canonical, labels, ascii, hcanonical, hlabels, hacceptable, hdirected, hascii, htext⟩ :=
    toAscii?_eq_some_iff.mp h
  refine ⟨labels, ascii, fun label hlabel => ?_, ?_, hdirected, hascii, htext⟩
  · obtain ⟨piece, hpiece, hread⟩ := exists_of_mem_mapM hlabels hlabel
    exact isLabel_of_label? (canonical?_of_mem_splitOn hcanonical hpiece) hread
      (hacceptable label hlabel)
  · rintro rfl
    exact List.splitOn_ne_nil _ _ (eq_nil_of_mapM hlabels)

namespace IsForm

variable {text : List Char} {labels ascii : List (List Char)} (h : IsForm text labels ascii)
include h

theorem isNameChar_of_mem_ascii {label : List Char} (hlabel : label ∈ ascii) :
    ∀ c ∈ label, IsNameChar c ∧ c ≠ '.' := by
  obtain ⟨source, hsource, hascii⟩ := exists_of_mem_mapM h.mapM_eq hlabel
  exact (h.isLabel source hsource).isNameChar_of_labelToAscii? hascii

theorem isNameChar : ∀ c ∈ text, IsNameChar c := by
  intro c hc
  rw [← h.text_eq] at hc
  obtain rfl | ⟨label, hlabel, hc⟩ := mem_intercalate hc
  · exact isNameChar_dot
  · exact (h.isNameChar_of_mem_ascii hlabel c hc).1

theorem splitOn_eq : text.splitOn '.' = ascii := by
  rw [← h.text_eq]
  refine List.splitOn_intercalate '.' (fun label hlabel hdot => ?_) ?_
  · exact (h.isNameChar_of_mem_ascii hlabel _ hdot).2 rfl
  · rintro rfl
    exact h.ne_nil (eq_nil_of_mapM h.mapM_eq)

theorem toAscii?_eq (hshort : ∀ encoded, mark ++ encoded ∈ ascii → encoded.length ≤ 2000) :
    toAscii? text = some text := by
  have hread : ascii.mapM label? = some labels := by
    refine mapM_of_mapM h.mapM_eq fun label hlabel text htext hascii => ?_
    exact (h.isLabel label hlabel).label?_of_labelToAscii? hascii fun encoded heq =>
      hshort encoded (heq ▸ htext)
  rw [← h.splitOn_eq] at hread
  exact toAscii?_eq_some_iff.mpr ⟨text, labels, ascii, canonical?_of_isNameChar h.isNameChar, hread,
    fun label hlabel => (h.isLabel label hlabel).acceptable, h.directed, h.mapM_eq, h.text_eq⟩

end IsForm

/-- Whether every label in Punycode is as short as those that are decoded. -/
def HasShortLabels (text : List Char) : Prop :=
  ∀ encoded, mark ++ encoded ∈ text.splitOn '.' → encoded.length ≤ 2000

theorem hasShortLabels_of_toAscii? {text text' : List Char} (hchars : ∀ c ∈ text, IsNameChar c)
    (h : toAscii? text = some text') : HasShortLabels text := by
  intro encoded hencoded
  obtain ⟨canonical, labels, -, hcanonical, hlabels, -⟩ := toAscii?_eq_some_iff.mp h
  rw [canonical?_of_isNameChar hchars] at hcanonical
  cases hcanonical
  have hread := isSome_of_mapM hlabels hencoded
  rw [label?, afterLead?_append] at hread
  dsimp only at hread
  split at hread
  · obtain ⟨label, hlabel⟩ := Option.isSome_iff_exists.mp hread
    exact length_of_decodeLabel? hlabel
  · cases hread

/-- The ASCII form of a name is its own ASCII form, as long as its labels are decoded; if one is
not, it has none. -/
theorem toAscii?_of_toAscii? {name text text' : List Char} (h : toAscii? name = some text) :
    toAscii? text = some text' ↔ text' = text ∧ HasShortLabels text := by
  obtain ⟨labels, ascii, hform⟩ := exists_isForm h
  have hself (hshort : HasShortLabels text) : toAscii? text = some text :=
    hform.toAscii?_eq (hform.splitOn_eq ▸ hshort)
  constructor
  · intro hread
    have hshort := hasShortLabels_of_toAscii? hform.isNameChar hread
    rw [hself hshort, Option.some.injEq] at hread
    exact ⟨hread.symm, hshort⟩
  · rintro ⟨rfl, hshort⟩
    exact hself hshort

theorem isWide_marks : isWide marks.runs.toList = true := by
  unfold marks
  apply Spelled.check
  · repeat constructor
  · decide +kernel

/-- Whether no character of ASCII is written from the right. -/
def isLeftToRight (runs : List Run) : Bool :=
  runs.all fun run => decide (0x80 ≤ run.first) || !(Direction.ofNumber run.value).isBidirectional

theorem isLeftToRight_directions : isLeftToRight directions.runs.toList = true := by
  unfold directions
  apply Spelled.check
  · repeat constructor
  · decide +kernel

theorem isBidirectional_eq_false {c : Char} (h : c.toNat < 0x80) :
    (direction c).isBidirectional = false := by
  rw [direction]
  cases hfind : directions.find? c.toNat with
  | none => rfl
  | some run =>
    obtain ⟨hrun, hfirst, -⟩ := mem_of_find? hfind
    have hclass := List.all_eq_true.mp isLeftToRight_directions run hrun
    have hlow : ¬0x80 ≤ run.first := by omega
    simpa [hlow] using hclass

theorem joinersFit_of_plain {s before : List Char} (h : ∀ c ∈ s, c.toNat < 0x80) :
    joinersFit before s = true := by
  induction s generalizing before with
  | nil => rfl
  | cons c s ih =>
    have hc := h c List.mem_cons_self
    have hrest : joinersFit (c :: before) s = true := ih fun d hd => h d (List.mem_cons_of_mem _ hd)
    have hjoiner : c ≠ '\u200c' ∧ c ≠ '\u200d' := by
      constructor <;> rintro rfl <;> exact absurd hc (by decide)
    rw [joinersFit, hrest, Bool.and_true]
    · exact hjoiner.1
    · exact hjoiner.2

theorem isAcceptable_of_isNameChar {label : List Char} (h : ∀ c ∈ label, IsNameChar c)
    (hdot : '.' ∉ label) : isAcceptable label = true := by
  have hmark : label.head?.any isMark = false := by
    cases hhead : label.head? with
    | none => rfl
    | some c =>
      have hc := (h c (List.mem_of_head? hhead)).plain
      rw [Option.any_some, isMark, find?_of_isWide isWide_marks hc]
      rfl
  have hallowed : label.any isForbidden = false := by simpa using fun c hc => (h c hc).allowed
  have hjoiners : joinersFit [] label = true := joinersFit_of_plain fun c hc => (h c hc).plain
  simp [isAcceptable, hallowed, hmark, hjoiners, hdot]

/-- A name in ASCII without labels in Punycode is its own ASCII form. -/
theorem toAscii?_of_isNameChar {s : List Char} (h : ∀ c ∈ s, IsNameChar c)
    (hmark : ∀ label ∈ s.splitOn '.', afterLead? mark label = none) : toAscii? s = some s := by
  have hchars : ∀ label ∈ s.splitOn '.', ∀ c ∈ label, IsNameChar c :=
    fun label hlabel c hc => h c (mem_of_mem_splitOn hlabel hc)
  have hform : IsForm s (s.splitOn '.') (s.splitOn '.') :=
    { isLabel := fun label hlabel =>
        ⟨canonical?_of_isNameChar (hchars label hlabel),
          isAcceptable_of_isNameChar (hchars label hlabel) (not_mem_of_mem_splitOn hlabel),
          fun _ => hmark label hlabel⟩
      ne_nil := List.splitOn_ne_nil _ _
      directed := by
        intro label hlabel c hc hdirection
        rw [isBidirectional_eq_false (hchars label hlabel c hc).plain] at hdirection
        cases hdirection
      mapM_eq := by
        have hplain := mapM_map_of_forall (f := id) (g := labelToAscii?) (l := s.splitOn '.')
          fun label hlabel => by
            rw [id, labelToAscii?, if_pos (isPlain_of_isNameChar (hchars label hlabel))]
        rwa [List.map_id] at hplain
      text_eq := List.intercalate_splitOn '.' }
  refine hform.toAscii?_eq fun encoded hencoded => ?_
  have hnone := hmark _ hencoded
  rw [afterLead?_append] at hnone
  cases hnone

end WorkflowPod.Url.Domain
