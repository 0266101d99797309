import WorkflowPod.Proofs.Path.Lexical

/-!
Clean paths as the canonical form of paths. Main statement: a clean path leads from every place to
where the path leads, and two paths have one clean form exactly if both start at the root or both do
not, and they lead to the same places.
-/
namespace WorkflowPod.Path

open Text

instance (e : Element) : Decidable (IsName e) :=
  decidable_of_iff (e ≠ [] ∧ e ≠ here ∧ e ≠ up ∧ '/' ∉ e)
    ⟨fun ⟨hne, hhere, hup, hslash⟩ => ⟨hne, hhere, hup, hslash⟩,
      fun h => ⟨h.ne_nil, h.ne_here, h.ne_up, h.no_slash⟩⟩

/-- A place in a tree of directories: the names on the way to it from the root, last first. -/
@[ext]
structure Place where
  names : List Element
  isName : ∀ e ∈ names, IsName e

namespace Place

def root : Place := ⟨[], by simp⟩

/-- Above the root there is nothing. -/
def above (place : Place) : Place :=
  ⟨place.names.tail, fun e he => place.isName e (List.mem_of_mem_tail he)⟩

def child (place : Place) (name : Element) (h : IsName name) : Place :=
  ⟨name :: place.names, List.forall_mem_cons.2 ⟨h, place.isName⟩⟩

/-- The place one element further on. One that is no name and no step up leads nowhere. -/
def enter (place : Place) (e : Element) : Place :=
  if h : IsName e then place.child e h else if e = up then place.above else place

/-- Where a path leads from a place. -/
def destination (start : Place) (path : String) : Place :=
  (path.toList.splitOn '/').foldl enter (if isAbsolute path then root else start)

example : (destination root "a//.././../b/").names = [['b']] := by decide

/-- On places steps are those by which the elements of a rooted path are kept. -/
theorem names_enter (place : Place) {e : Element} (he : '/' ∉ e) :
    (place.enter e).names = keep true place.names e := by
  unfold enter
  obtain hblank | rfl | hname := blank_or_up_or_isName he
  · have hname : ¬IsName e := fun h => hblank.elim h.ne_nil h.ne_here
    have hup : e ≠ up := by
      rintro rfl
      revert hblank
      decide
    rw [dif_neg hname, if_neg hup, keep_of_blank hblank]
  · have hname : ¬IsName up := fun h => h.ne_up rfl
    rw [dif_neg hname, if_pos rfl]
    obtain ⟨names, hnames⟩ := place
    cases names with
    | nil => rfl
    | cons last rest => exact (keep_up_of_isName (hnames last List.mem_cons_self) rest).symm
  · rw [dif_pos hname, keep_of_isName hname]
    rfl

theorem names_foldl_enter (place : Place) {es : List Element} (hes : ∀ e ∈ es, '/' ∉ e) :
    (es.foldl enter place).names = es.foldl (keep true) place.names := by
  induction es generalizing place with
  | nil => rfl
  | cons e es ih =>
    obtain ⟨he, hes⟩ := List.forall_mem_cons.1 hes
    rw [List.foldl_cons, List.foldl_cons, ih (place.enter e) hes, names_enter place he]

theorem names_destination (start : Place) (path : String) :
    (destination start path).names =
      walk true (if isAbsolute path then [] else start.names) path.toList := by
  rw [destination, names_foldl_enter _ fun _ => not_mem_of_mem_splitOn]
  split <;> rfl

theorem names_destination_of_absolute (start : Place) {path : String} (h : isAbsolute path) :
    (destination start path).names = (elements path).reverse := by
  rw [names_destination, if_pos h, elements, keptElements_eq, List.reverse_reverse]
  rw [isAbsolute] at h
  rw [h]

/-- A path that starts where one is drops as many names as it has steps up and adds its own. -/
theorem names_destination_of_relative (start : Place) {path : String}
    (h : isAbsolute path = false) {ups : Nat} {names : List Element}
    (hpath : elements path = List.replicate ups up ++ names) (hnames : ∀ e ∈ names, IsName e) :
    (destination start path).names = names.reverse ++ start.names.drop ups := by
  have hway : (walk false [] path.toList).reverse = List.replicate ups up ++ names := by
    rw [← hpath, elements, keptElements_eq]
    rw [isAbsolute] at h
    rw [h]
  rw [names_destination, h, walk_eq, hway, List.foldl_append]
  rw [if_neg Bool.false_ne_true, foldl_keep_root_ups ups start.isName, foldl_keep_names hnames]

/-- A place deep enough for any number of steps up. -/
def deep (name : Element) (h : IsName name) (depth : Nat) : Place :=
  ⟨List.replicate depth name, fun _ he => List.eq_of_mem_replicate he ▸ h⟩

/-- Ways that end alike from everywhere have no fewer steps up one than the other: what the one
leaves of the names of a deep place the other would have to know. -/
theorem le_of_alike {ups ups' : Nat} {names names' : List Element}
    (h : ∀ start : Place, names ++ start.names.drop ups = names' ++ start.names.drop ups') :
    ups' ≤ ups := by
  by_contra hlt
  have hname : IsName ['a'] := by decide
  have hname' : IsName ['b'] := by decide
  have ha := h (deep ['a'] hname ups')
  have hb := h (deep ['b'] hname' ups')
  simp only [deep, List.drop_replicate, Nat.sub_self, List.replicate_zero] at ha hb
  have hsame := List.append_cancel_left (ha.trans hb.symm)
  have hpos : ups' - ups ≠ 0 := by omega
  have := (List.replicate_inj.1 hsame).2.resolve_left hpos
  revert this
  decide

theorem eq_of_alike {ups ups' : Nat} {names names' : List Element}
    (h : ∀ start : Place, names ++ start.names.drop ups = names' ++ start.names.drop ups') :
    ups = ups' ∧ names = names' := by
  have hle := le_of_alike h
  have hge := le_of_alike fun start => (h start).symm
  have hroot := h root
  simp only [root, List.drop_nil, List.append_nil] at hroot
  exact ⟨by omega, hroot⟩

end Place

/-- The elements a path is written with, without the slash of the root. -/
def writtenElements (path : String) : List Element :=
  (if isAbsolute path then path.toList.tail else path.toList).splitOn '/'

/-- The form of clean paths. Only the root and the place itself are written without a name or a step
up. -/
structure IsCanonical (path : String) : Prop where
  ne_empty : path ≠ ""
  ne_blank : path ≠ "/" → path ≠ "." → ∀ e ∈ writtenElements path, e ≠ [] ∧ e ≠ here
  no_slash : path ≠ "/" → path.toList.getLast? ≠ some '/'
  ups_first : ∃ ups names, writtenElements path = List.replicate ups up ++ names ∧ up ∉ names ∧
    (isAbsolute path → ups = 0)

theorem toList_of_absolute {path : String} (h : isAbsolute path) :
    path.toList = '/' :: path.toList.tail := by
  unfold isAbsolute isRooted at h
  split at h
  · rename_i rest heq
    rw [heq]
    rfl
  · cases h

/-- The slash of the root is no step. -/
theorem walk_toList (path : String) :
    walk (isAbsolute path) [] path.toList =
      (writtenElements path).foldl (keep (isAbsolute path)) [] := by
  unfold writtenElements
  cases h : isAbsolute path with
  | true =>
    have htext : path.toList = [] ++ '/' :: path.toList.tail := toList_of_absolute h
    conv_lhs => rw [htext]
    rw [walk_append, walk_nil]
    rfl
  | false => rfl

theorem intercalate_writtenElements (path : String) :
    ['/'].intercalate (writtenElements path) =
      if isAbsolute path then path.toList.tail else path.toList := List.intercalate_splitOn '/'

theorem exists_elements_eq (path : String) :
    ∃ ups names, elements path = List.replicate ups up ++ names ∧ (∀ e ∈ names, IsName e) ∧
      (isAbsolute path → ups = 0) := by
  obtain ⟨names, ups, hkept, hnames, hroot⟩ := isKept_reverse_keptElements path.toList
  refine ⟨ups, names.reverse, ?_, fun e he => hnames e (List.mem_reverse.1 he), hroot⟩
  rw [elements, ← List.reverse_reverse (keptElements path.toList), hkept, List.reverse_append,
    List.reverse_replicate]

theorem toList_clean (path : String) :
    (clean path).toList = ofElements (isAbsolute path) (elements path) := by
  rw [clean, String.toList_ofList]
  rfl

theorem clean_of_elements_eq_nil {path : String} (h : elements path = []) :
    clean path = if isAbsolute path then "/" else "." := by
  rw [← String.toList_inj, toList_clean, h]
  cases isAbsolute path <;> rfl

/-- A clean path is written with the elements that are kept. -/
theorem writtenElements_clean {path : String} (h : elements path ≠ []) :
    writtenElements (clean path) = elements path := by
  have hmem (e : Element) (he : e ∈ elements path) : e ≠ [] ∧ '/' ∉ e := of_mem_keptElements he
  have hslash : (['/'].intercalate (elements path)).splitOn '/' = elements path :=
    List.splitOn_intercalate '/' (fun e he => (hmem e he).2) h
  rw [writtenElements, isAbsolute_clean, toList_clean]
  cases isAbsolute path with
  | true => exact hslash
  | false => rwa [if_neg Bool.false_ne_true, ofElements_false hmem h]

/-- A clean path ends with its last element. -/
theorem getLast?_clean_ne {path : String} (h : elements path ≠ []) :
    (clean path).toList.getLast? ≠ some '/' := by
  obtain ⟨front, last, hlast⟩ := (List.eq_nil_or_concat (elements path)).resolve_left h
  rw [List.concat_eq_append] at hlast
  have hmem (e : Element) (he : e ∈ front ++ [last]) : e ≠ [] ∧ '/' ∉ e :=
    of_mem_keptElements (hlast ▸ he)
  have hown : last ≠ [] ∧ '/' ∉ last := hmem last (by simp)
  rw [toList_clean, hlast, ofElements_concat (fun e he => hmem e (by simp [he])) hown,
    List.getLast?_append_of_ne_nil _ hown.1]
  exact fun h => hown.2 (List.mem_of_getLast? h)

theorem isCanonical_clean (path : String) : IsCanonical (clean path) := by
  obtain ⟨ups, names, helements, hnames, hroot⟩ := exists_elements_eq path
  have hne := clean_ne_empty path
  by_cases hnil : elements path = []
  · have hclean := clean_of_elements_eq_nil hnil
    rw [hclean]
    cases isAbsolute path with
    | true => exact ⟨by decide, by decide, by decide, ⟨0, [[]], by decide, by decide, by decide⟩⟩
    | false =>
      exact ⟨by decide, by decide, by decide, ⟨0, [here], by decide, by decide, by decide⟩⟩
  · have hwritten := writtenElements_clean hnil
    have hblank (e : Element) (he : e ∈ elements path) : e ≠ [] ∧ e ≠ here := by
      rw [helements] at he
      obtain he | he := List.mem_append.1 he
      · rw [List.eq_of_mem_replicate he]
        decide
      · exact ⟨(hnames e he).ne_nil, (hnames e he).ne_here⟩
    constructor
    case ne_empty => exact hne
    case ne_blank =>
      intro _ _
      rwa [hwritten]
    case no_slash =>
      intro _
      exact getLast?_clean_ne hnil
    case ups_first =>
      refine ⟨ups, names, by rw [hwritten, helements], fun hup => (hnames up hup).ne_up rfl, ?_⟩
      rwa [isAbsolute_clean]

/-- Of a path that has an element at all the elements are kept if it is canonical. -/
theorem IsCanonical.elements_eq {path : String} (h : IsCanonical path) (hroot : path ≠ "/")
    (hplace : path ≠ ".") : elements path = writtenElements path := by
  obtain ⟨ups, names, hwritten, hup, hups⟩ := h.ups_first
  have hblank := h.ne_blank hroot hplace
  have hnames (e : Element) (he : e ∈ names) : IsName e := by
    have hmem : e ∈ writtenElements path := hwritten ▸ List.mem_append_right _ he
    have hslash : '/' ∉ e := not_mem_of_mem_splitOn hmem
    exact ⟨(hblank e hmem).1, (hblank e hmem).2, fun heq => hup (heq ▸ he), hslash⟩
  have hkept : IsKept (isAbsolute path) (writtenElements path).reverse := by
    refine ⟨names.reverse, ups, ?_, fun e he => hnames e (List.mem_reverse.1 he), hups⟩
    rw [hwritten, List.reverse_append, List.reverse_replicate]
  rw [elements, keptElements_eq, ← isAbsolute, walk_toList, hkept.foldl_eq, List.reverse_reverse]

/-- Canonical are the paths that cleaning leaves as they are. -/
theorem isCanonical_iff {path : String} : IsCanonical path ↔ clean path = path := by
  constructor
  · intro h
    by_cases hroot : path = "/"
    · rw [hroot]
      decide
    by_cases hplace : path = "."
    · rw [hplace]
      decide
    have hmem (e : Element) (he : e ∈ writtenElements path) : e ≠ [] ∧ '/' ∉ e :=
      ⟨(h.ne_blank hroot hplace e he).1, not_mem_of_mem_splitOn he⟩
    have hjoined := intercalate_writtenElements path
    rw [← String.toList_inj, toList_clean, h.elements_eq hroot hplace]
    cases habsolute : isAbsolute path with
    | true =>
      rw [habsolute, if_pos rfl] at hjoined
      rw [toList_of_absolute habsolute, ← hjoined]
      rfl
    | false =>
      rw [habsolute, if_neg Bool.false_ne_true] at hjoined
      have hne : writtenElements path ≠ [] := List.splitOn_ne_nil _ _
      rw [ofElements_false hmem hne, hjoined]
  · intro h
    rw [← h]
    exact isCanonical_clean path

/-- A path leads where its clean form leads. -/
theorem destination_clean (start : Place) (path : String) :
    start.destination (clean path) = start.destination path := by
  have habsolute := isAbsolute_clean path
  have helements := elements_clean path
  ext1
  cases h : isAbsolute path with
  | true =>
    rw [Place.names_destination_of_absolute start h,
      Place.names_destination_of_absolute start (habsolute.trans h), helements]
  | false =>
    obtain ⟨ups, names, hpath, hnames, -⟩ := exists_elements_eq path
    rw [Place.names_destination_of_relative start h hpath hnames,
      Place.names_destination_of_relative start (habsolute.trans h) (helements.trans hpath) hnames]

/-- Paths that lead to the same places have the same elements. -/
theorem elements_eq_of_destination_eq {path path' : String}
    (habsolute : isAbsolute path = isAbsolute path')
    (h : ∀ start : Place, start.destination path = start.destination path') :
    elements path = elements path' := by
  have hnames (start : Place) := congrArg Place.names (h start)
  cases hroot : isAbsolute path with
  | true =>
    have heq := hnames Place.root
    rw [Place.names_destination_of_absolute _ hroot,
      Place.names_destination_of_absolute _ (habsolute.symm.trans hroot)] at heq
    exact List.reverse_injective heq
  | false =>
    obtain ⟨ups, names, hpath, hown, -⟩ := exists_elements_eq path
    obtain ⟨ups', names', hpath', hown', -⟩ := exists_elements_eq path'
    simp only [Place.names_destination_of_relative _ hroot hpath hown,
      Place.names_destination_of_relative _ (habsolute.symm.trans hroot) hpath' hown'] at hnames
    obtain ⟨rfl, hreverse⟩ := Place.eq_of_alike hnames
    rw [hpath, hpath', List.reverse_injective hreverse]

/-- Cleaning computes the canonical form of a path: it has that form, starts at the root where the
path does and leads from every place to where the path leads, and it is the same for two paths
exactly if these cannot be told apart by where they start and lead. -/
theorem clean_canonical :
    (∀ path, IsCanonical (clean path) ∧ isAbsolute (clean path) = isAbsolute path ∧
      (∀ start : Place, start.destination (clean path) = start.destination path) ∧
      clean (clean path) = clean path) ∧
    ∀ path path', clean path = clean path' ↔
      isAbsolute path = isAbsolute path' ∧
        ∀ start : Place, start.destination path = start.destination path' := by
  constructor
  · intro path
    exact ⟨isCanonical_clean path, isAbsolute_clean path, fun start => destination_clean start path,
      clean_clean path⟩
  · intro path path'
    constructor
    · intro h
      constructor
      · rw [← isAbsolute_clean path, h, isAbsolute_clean]
      · intro start
        rw [← destination_clean start path, h, destination_clean]
    · rintro ⟨habsolute, h⟩
      exact clean_congr habsolute (elements_eq_of_destination_eq habsolute h)

end WorkflowPod.Path
