import WorkflowPod.Path.Lexical
import WorkflowPod.Proofs.Text.Split

/-!
Slash paths by the elements that cleaning keeps. Main statements: a clean path keeps the elements it
has, an entry joined to a directory is in that directory, and a path joined to a directory leads
further down exactly if it takes back all its steps up.
-/
namespace WorkflowPod.Path

open Text

/-- An element that leads to an entry of a directory. -/
structure IsName (e : Element) : Prop where
  ne_nil : e ≠ []
  ne_here : e ≠ here
  ne_up : e ≠ up
  no_slash : '/' ∉ e

/-- Elements as cleaning keeps them, last first: names, and below them steps up, of which there are
none at the root. -/
def IsKept (rooted : Bool) (kept : List Element) : Prop :=
  ∃ names ups, kept = names ++ List.replicate ups up ∧ (∀ e ∈ names, IsName e) ∧
    (rooted → ups = 0)

variable {rooted : Bool} {kept names : List Element} {e last : Element}

theorem blank_or_up_or_isName (h : '/' ∉ e) : (e = [] ∨ e = here) ∨ e = up ∨ IsName e := by
  by_cases hblank : e = [] ∨ e = here
  · exact .inl hblank
  · by_cases hup : e = up
    · exact .inr (.inl hup)
    · exact .inr (.inr ⟨fun hnil => hblank (.inl hnil), fun hhere => hblank (.inr hhere), hup, h⟩)

theorem isName_toList {name : String} (hne : name ≠ "") (hslash : '/' ∉ name.toList)
    (hhere : name ≠ ".") (hup : name ≠ "..") : IsName name.toList :=
  ⟨mt String.toList_eq_nil_iff.1 hne, fun heq => hhere (String.toList_inj.1 heq),
    fun heq => hup (String.toList_inj.1 heq), hslash⟩

theorem keep_of_blank (h : e = [] ∨ e = here) : keep rooted kept e = kept := if_pos h

theorem keep_of_isName (h : IsName e) : keep rooted kept e = e :: kept := by
  rw [keep.eq_def, if_neg (not_or.2 ⟨h.ne_nil, h.ne_here⟩), if_neg h.ne_up]

theorem keep_up_of_isName (h : IsName last) (rest : List Element) :
    keep rooted (last :: rest) up = rest := by
  have hblank : ¬(up = [] ∨ up = here) := by decide
  rw [keep.eq_def, if_neg hblank, if_pos rfl]
  exact if_neg h.ne_up

theorem keep_up_replicate (ups : Nat) :
    keep false (List.replicate ups up) up = List.replicate (ups + 1) up := by
  cases ups <;> rfl

theorem isKept_nil : IsKept rooted [] := ⟨[], 0, rfl, by simp, fun _ => rfl⟩

theorem IsKept.of_mem (h : IsKept rooted kept) (he : e ∈ kept) : e ≠ [] ∧ '/' ∉ e := by
  obtain ⟨names, ups, rfl, hnames, -⟩ := h
  obtain he | he := List.mem_append.1 he
  · exact ⟨(hnames e he).ne_nil, (hnames e he).no_slash⟩
  · rw [List.eq_of_mem_replicate he]
    decide

theorem IsKept.keep (h : IsKept rooted kept) (he : '/' ∉ e) :
    IsKept rooted (keep rooted kept e) := by
  obtain hblank | rfl | hname := blank_or_up_or_isName he
  · rwa [keep_of_blank hblank]
  · obtain ⟨names, ups, rfl, hnames, hroot⟩ := h
    cases names with
    | cons last rest =>
      obtain ⟨hlast, hrest⟩ := List.forall_mem_cons.1 hnames
      rw [List.cons_append, keep_up_of_isName hlast]
      exact ⟨rest, ups, rfl, hrest, hroot⟩
    | nil =>
      cases rooted with
      | false => exact ⟨[], ups + 1, keep_up_replicate ups, hnames, by simp⟩
      | true =>
        obtain rfl := hroot rfl
        exact ⟨[], 0, rfl, hnames, fun _ => rfl⟩
  · obtain ⟨names, ups, rfl, hnames, hroot⟩ := h
    rw [keep_of_isName hname]
    exact ⟨e :: names, ups, rfl, List.forall_mem_cons.2 ⟨hname, hnames⟩, hroot⟩

theorem IsKept.foldl_keep {es : List Element} (h : IsKept rooted kept) (hes : ∀ e ∈ es, '/' ∉ e) :
    IsKept rooted (es.foldl (Path.keep rooted) kept) := by
  induction es generalizing kept with
  | nil => exact h
  | cons e es ih =>
    obtain ⟨he, hes⟩ := List.forall_mem_cons.1 hes
    exact ih (h.keep he) hes

theorem foldl_keep_names (h : ∀ e ∈ names, IsName e) :
    names.foldl (keep rooted) kept = names.reverse ++ kept := by
  induction names generalizing kept with
  | nil => rfl
  | cons e names ih =>
    obtain ⟨he, hnames⟩ := List.forall_mem_cons.1 h
    rw [List.foldl_cons, keep_of_isName he, ih hnames, List.reverse_cons, List.append_assoc]
    rfl

theorem foldl_keep_ups (ups more : Nat) :
    (List.replicate ups up).foldl (keep false) (List.replicate more up) =
      List.replicate (more + ups) up := by
  induction ups generalizing more with
  | zero => rfl
  | succ ups ih =>
    rw [List.replicate_succ, List.foldl_cons, keep_up_replicate, ih]
    congr 1
    omega

/-- From a directory below the root each step up takes back a name, as long as there is one. -/
theorem foldl_keep_root_ups (ups : Nat) (h : ∀ e ∈ names, IsName e) :
    (List.replicate ups up).foldl (keep true) names = names.drop ups := by
  induction ups generalizing names with
  | zero => rfl
  | succ ups ih =>
    rw [List.replicate_succ, List.foldl_cons]
    cases names with
    | nil =>
      have hroot : keep true [] up = [] := rfl
      rw [hroot, ih h, List.drop_nil, List.drop_nil]
    | cons last rest =>
      obtain ⟨hlast, hrest⟩ := List.forall_mem_cons.1 h
      rw [keep_up_of_isName hlast, ih hrest, List.drop_succ_cons]

/-- What has been kept is kept again. -/
theorem IsKept.foldl_eq {es : List Element} (h : IsKept rooted es.reverse) :
    es.foldl (Path.keep rooted) [] = es.reverse := by
  obtain ⟨names, ups, hes, hnames, hroot⟩ := h
  have hups : (List.replicate ups up).foldl (Path.keep rooted) [] = List.replicate ups up := by
    cases rooted with
    | false => simpa using foldl_keep_ups ups 0
    | true =>
      obtain rfl := hroot rfl
      rfl
  rw [hes, ← List.reverse_reverse es, hes, List.reverse_append, List.reverse_replicate,
    List.foldl_append, hups, foldl_keep_names fun e he => hnames e (List.mem_reverse.1 he),
    List.reverse_reverse]

/-- From any place a way leads where what is kept of it leads. -/
theorem foldl_keep_eq {es : List Element} (hes : ∀ e ∈ es, '/' ∉ e) :
    es.foldl (keep rooted) kept =
      (es.foldl (keep false) []).reverse.foldl (keep rooted) kept := by
  induction es using List.reverseRecOn with
  | nil => rfl
  | append_singleton es e ih =>
    have hbefore : ∀ e ∈ es, '/' ∉ e := fun e he => hes e (List.mem_append_left _ he)
    have ih := ih hbefore
    have hkept : IsKept false (es.foldl (keep false) []) := isKept_nil.foldl_keep hbefore
    rw [List.foldl_append, List.foldl_append, List.foldl_cons, List.foldl_cons, List.foldl_nil,
      List.foldl_nil, ih]
    generalize es.foldl (keep false) [] = before at hkept
    obtain hblank | rfl | hname := blank_or_up_or_isName (hes e (by simp))
    · rw [keep_of_blank hblank, keep_of_blank hblank]
    · obtain ⟨names, ups, rfl, hnames, -⟩ := hkept
      cases names with
      | nil =>
        rw [List.nil_append, keep_up_replicate, List.reverse_replicate, List.reverse_replicate,
          List.replicate_succ', List.foldl_append]
        rfl
      | cons last rest =>
        have hlast : IsName last := hnames last List.mem_cons_self
        rw [List.cons_append, keep_up_of_isName hlast, List.reverse_cons, List.foldl_append,
          List.foldl_cons, List.foldl_nil, keep_of_isName hlast, keep_up_of_isName hlast]
    · rw [keep_of_isName hname, keep_of_isName hname, List.reverse_cons, List.foldl_append,
        List.foldl_cons, List.foldl_nil, keep_of_isName hname]

/-- Where a path leads from a place: the elements kept, last first. -/
def walk (rooted : Bool) (kept : List Element) (path : List Char) : List Element :=
  (path.splitOn '/').foldl (keep rooted) kept

variable {path : List Char}

theorem keptElements_eq (path : List Char) :
    keptElements path = (walk (isRooted path) [] path).reverse := rfl

theorem walk_append (first rest : List Char) :
    walk rooted kept (first ++ '/' :: rest) = walk rooted (walk rooted kept first) rest := by
  rw [walk, List.splitOn_append_cons_self, List.foldl_append]
  rfl

theorem isKept_walk (h : IsKept rooted kept) (path : List Char) :
    IsKept rooted (walk rooted kept path) :=
  h.foldl_keep fun _ => not_mem_of_mem_splitOn

theorem walk_eq (path : List Char) :
    walk rooted kept path = (walk false [] path).reverse.foldl (keep rooted) kept :=
  foldl_keep_eq fun _ => not_mem_of_mem_splitOn

theorem walk_nil : walk rooted kept [] = kept := by
  show keep rooted kept [] = kept
  exact keep_of_blank (.inl rfl)

theorem walk_intercalate {es : List Element} (h : ∀ e ∈ es, '/' ∉ e) :
    walk rooted kept (['/'].intercalate es) = es.foldl (keep rooted) kept := by
  cases es with
  | nil => exact walk_nil
  | cons e es => rw [walk, List.splitOn_intercalate '/' h (List.cons_ne_nil _ _)]

theorem isRooted_append {first : List Char} (h : first ≠ []) (rest : List Char) :
    isRooted (first ++ rest) = isRooted first := by
  cases first with
  | nil => exact absurd rfl h
  | cons c first => by_cases hc : c = '/' <;> simp [isRooted, hc]

theorem isRooted_eq_false (h : '/' ∉ path) : isRooted path = false := by
  cases path with
  | nil => rfl
  | cons c path =>
    have hc : c ≠ '/' := fun heq => h (heq ▸ List.mem_cons_self)
    simp [isRooted, hc]

theorem exists_intercalate_eq (e : Element) (es : List Element) :
    ∃ tail, ['/'].intercalate (e :: es) = e ++ tail := by
  cases es with
  | nil => exact ⟨[], by simp⟩
  | cons next es => exact ⟨_, by rw [List.intercalate_cons_cons, List.append_assoc]⟩

section OfElements

variable {es : List Element} (h : ∀ e ∈ es, e ≠ [] ∧ '/' ∉ e)

include h

theorem ofElements_false (hne : es ≠ []) : ofElements false es = ['/'].intercalate es := by
  obtain ⟨e, rest, rfl⟩ := List.exists_cons_of_ne_nil hne
  obtain ⟨tail, htail⟩ := exists_intercalate_eq e rest
  have hjoined : ['/'].intercalate (e :: rest) ≠ [] := by
    rw [htail]
    exact List.append_ne_nil_of_left_ne_nil (h e List.mem_cons_self).1 tail
  simp [ofElements, hjoined]

theorem ofElements_ne_nil : ofElements rooted es ≠ [] := by
  cases rooted with
  | true => exact List.cons_ne_nil _ _
  | false =>
    cases es with
    | nil => exact List.cons_ne_nil _ _
    | cons e rest =>
      obtain ⟨tail, htail⟩ := exists_intercalate_eq e rest
      rw [ofElements_false h (List.cons_ne_nil _ _), htail]
      exact List.append_ne_nil_of_left_ne_nil (h e List.mem_cons_self).1 tail

theorem isRooted_ofElements : isRooted (ofElements rooted es) = rooted := by
  cases rooted with
  | true => rfl
  | false =>
    cases es with
    | nil => rfl
    | cons e rest =>
      obtain ⟨tail, htail⟩ := exists_intercalate_eq e rest
      obtain ⟨hne, hslash⟩ := h e List.mem_cons_self
      rw [ofElements_false h (List.cons_ne_nil _ _), htail, isRooted_append hne,
        isRooted_eq_false hslash]

theorem walk_ofElements {rooted' : Bool} :
    walk rooted kept (ofElements rooted' es) = es.foldl (keep rooted) kept := by
  have hjoined : walk rooted kept (['/'].intercalate es) = es.foldl (keep rooted) kept :=
    walk_intercalate fun e he => (h e he).2
  cases rooted' with
  | true =>
    have hroot : ofElements true es = [] ++ '/' :: ['/'].intercalate es := rfl
    rw [hroot, walk_append, walk_nil, hjoined]
  | false =>
    cases es with
    | nil =>
      show keep rooted kept here = kept
      exact keep_of_blank (.inr rfl)
    | cons e rest => rw [ofElements_false h (List.cons_ne_nil _ _), hjoined]

end OfElements

theorem isKept_reverse_keptElements (path : List Char) :
    IsKept (isRooted path) (keptElements path).reverse := by
  rw [keptElements_eq, List.reverse_reverse]
  exact isKept_walk isKept_nil path

theorem of_mem_keptElements (he : e ∈ keptElements path) : e ≠ [] ∧ '/' ∉ e :=
  (isKept_reverse_keptElements path).of_mem (List.mem_reverse.2 he)

theorem isRooted_cleanChars (path : List Char) : isRooted (cleanChars path) = isRooted path :=
  isRooted_ofElements fun _ => of_mem_keptElements

/-- A clean path leads where the path led from its start. -/
theorem walk_cleanChars (path : List Char) :
    walk (isRooted path) [] (cleanChars path) = walk (isRooted path) [] path := by
  rw [cleanChars, walk_ofElements fun _ => of_mem_keptElements,
    (isKept_reverse_keptElements path).foldl_eq, keptElements_eq, List.reverse_reverse]

theorem keptElements_cleanChars (path : List Char) :
    keptElements (cleanChars path) = keptElements path := by
  rw [keptElements_eq, isRooted_cleanChars, walk_cleanChars, keptElements_eq]

/-- The elements of a path that cleaning keeps. -/
def elements (path : String) : List Element := keptElements path.toList

theorem clean_congr {path path' : String} (habsolute : isAbsolute path = isAbsolute path')
    (helements : elements path = elements path') : clean path = clean path' := by
  unfold isAbsolute at habsolute
  unfold elements at helements
  rw [clean, clean, cleanChars, cleanChars, habsolute, helements]

theorem elements_clean (path : String) : elements (clean path) = elements path := by
  rw [elements, clean, String.toList_ofList, keptElements_cleanChars, elements]

theorem isAbsolute_clean (path : String) : isAbsolute (clean path) = isAbsolute path := by
  rw [isAbsolute, clean, String.toList_ofList, isRooted_cleanChars, isAbsolute]

theorem clean_clean (path : String) : clean (clean path) = clean path :=
  clean_congr (isAbsolute_clean path) (elements_clean path)

theorem clean_ne_empty (path : String) : clean path ≠ "" := by
  rw [← String.toList_inj.ne, clean, String.toList_ofList]
  exact ofElements_ne_nil fun _ => of_mem_keptElements

section Join

variable {base : String} (hbase : base ≠ "")

include hbase

theorem isAbsolute_append_slash (path : String) :
    isAbsolute (base ++ "/" ++ path) = isAbsolute base := by
  rw [isAbsolute, String.append_assoc, String.toList_append]
  exact isRooted_append (fun hnil => hbase (String.toList_eq_nil_iff.1 hnil)) _

/-- What is kept of a path below a base: what is kept of the base, and from there on the path. -/
theorem elements_append_slash (path : String) :
    elements (base ++ "/" ++ path) =
      (walk (isAbsolute base) (elements base).reverse path.toList).reverse := by
  have habsolute := isAbsolute_append_slash hbase path
  have htext : (base ++ "/" ++ path).toList = base.toList ++ '/' :: path.toList := by
    simp [String.toList_append]
  unfold isAbsolute at habsolute
  rw [elements, keptElements_eq, habsolute, htext, walk_append, elements, keptElements_eq,
    List.reverse_reverse]
  rfl

theorem join_pair {path : String} (hpath : path ≠ "") :
    join [base, path] = clean (base ++ "/" ++ path) := by
  simp [join, joinChars, clean, hbase, hpath, String.toList_append]

end Join

/-- A path is taken as it is, or joined to what it is relative to. -/
theorem resolve_eq (base path : String) :
    resolve base path = if isAbsolute path ∨ base = "" then path else join [base, path] := by
  simp only [resolve, String.isEmpty_iff, or_comm]

section LastElement

variable {c : Char} (hc : c ∈ path) (hslash : c ≠ '/')

include hc hslash

theorem exists_dropWhile_eq :
    ∃ last rest, path.reverse.dropWhile (· == '/') = last :: rest ∧ last ≠ '/' := by
  have hne : path.reverse.dropWhile (· == '/') ≠ [] := by
    intro hnil
    exact hslash (by simpa using List.dropWhile_eq_nil_iff.1 hnil c (List.mem_reverse.2 hc))
  obtain ⟨last, rest, htail⟩ := List.exists_cons_of_ne_nil hne
  have hhead : ((path.reverse.dropWhile (· == '/')).head hne == '/') = false :=
    List.head_dropWhile_not _ hne
  exact ⟨last, rest, htail, by simpa [htail] using hhead⟩

/-- Slashes at the end of a path are no part of its last element. -/
theorem reverse_baseNameChars :
    (baseNameChars path).reverse =
      (path.reverse.dropWhile (· == '/')).takeWhile (· != '/') := by
  obtain ⟨last, rest, htail, -⟩ := exists_dropWhile_eq hc hslash
  have hpath : path ≠ [] := List.ne_nil_of_mem hc
  simp [baseNameChars, hpath, dropTailWhile, htail]

theorem baseNameChars_ne_nil : baseNameChars path ≠ [] := by
  obtain ⟨last, rest, htail, hlast⟩ := exists_dropWhile_eq hc hslash
  have hname := reverse_baseNameChars hc hslash
  rw [htail, List.takeWhile_cons_of_pos (by simpa using hlast)] at hname
  intro hnil
  simp [hnil] at hname

theorem slash_not_mem_baseNameChars : '/' ∉ baseNameChars path := by
  intro hmem
  rw [← List.mem_reverse, reverse_baseNameChars hc hslash] at hmem
  simpa using List.mem_takeWhile_imp hmem

end LastElement

theorem baseName_ne_empty {path : String} (h : ∃ c ∈ path.toList, c ≠ '/') :
    baseName path ≠ "" := by
  obtain ⟨c, hc, hslash⟩ := h
  rw [Ne, ← String.toList_eq_nil_iff, baseName, String.toList_ofList]
  exact baseNameChars_ne_nil hc hslash

theorem slash_not_mem_baseName {path : String} (h : ∃ c ∈ path.toList, c ≠ '/') :
    '/' ∉ (baseName path).toList := by
  obtain ⟨c, hc, hslash⟩ := h
  rw [baseName, String.toList_ofList]
  exact slash_not_mem_baseNameChars hc hslash

/-- The directory a path is in: what stands before its last element, cleaned. -/
def parent (path : String) : String :=
  String.ofList (cleanChars (dropTailWhile (· != '/') path.toList))

/-- The clean path of the entry `name` of a directory. -/
structure IsEntry (directory name path : String) : Prop where
  clean_eq : clean path = path
  baseName_eq : baseName path = name
  parent_eq : parent path = clean directory

/-- The text before the last element of a path: the elements before it, each with a slash after. -/
def stem (rooted : Bool) (es : List Element) : List Char :=
  (if rooted then ['/'] else []) ++ es.flatMap (· ++ ['/'])

section Stem

variable {es : List Element}

theorem stem_eq_nil_or_concat (rooted : Bool) (es : List Element) :
    stem rooted es = [] ∨ ∃ before, stem rooted es = before ++ ['/'] := by
  induction es using List.reverseRecOn with
  | nil => cases rooted <;> simp [stem]
  | append_singleton es e _ => exact .inr ⟨stem rooted es ++ e, by simp [stem]⟩

theorem dropTailWhile_stem_append (hslash : '/' ∉ e) :
    dropTailWhile (· != '/') (stem rooted es ++ e) = stem rooted es := by
  have hname : ∀ c ∈ e.reverse, (c != '/') = true := by
    intro c hc
    simpa using fun heq : c = '/' => hslash (heq ▸ List.mem_reverse.1 hc)
  rw [dropTailWhile, List.reverse_append, List.dropWhile_append_of_pos hname]
  obtain hstem | ⟨before, hstem⟩ := stem_eq_nil_or_concat rooted es <;> rw [hstem] <;> simp

theorem baseNameChars_stem_append (he : e ≠ []) (hslash : '/' ∉ e) :
    baseNameChars (stem rooted es ++ e) = e := by
  obtain ⟨c, hc⟩ := List.exists_mem_of_ne_nil e he
  have hname : ∀ c ∈ e.reverse, (c == '/') = false := by
    intro c hc
    simpa using fun heq : c = '/' => hslash (heq ▸ List.mem_reverse.1 hc)
  have hkept : e.reverse.dropWhile (· == '/') = e.reverse := by
    refine List.dropWhile_eq_self_iff.2 fun hpos => ?_
    simpa using hname _ (List.getElem_mem hpos)
  have htaken : e.reverse.takeWhile (· != '/') = e.reverse :=
    List.takeWhile_eq_self_iff.2 fun c hc => by simpa using hname c hc
  rw [← List.reverse_inj, reverse_baseNameChars (List.mem_append_right (stem rooted es) hc)
    fun heq => hslash (heq ▸ hc), List.reverse_append, List.dropWhile_append, hkept,
    if_neg (by simpa using he),
    List.takeWhile_append_of_pos (fun c hc => by simpa using hname c hc)]
  obtain hstem | ⟨before, hstem⟩ := stem_eq_nil_or_concat rooted es <;> rw [hstem] <;> simp

theorem ofElements_concat (hes : ∀ e ∈ es, e ≠ [] ∧ '/' ∉ e) (he : e ≠ [] ∧ '/' ∉ e) :
    ofElements rooted (es ++ [e]) = stem rooted es ++ e := by
  rw [stem, List.append_assoc, flatMap_append_eq_intercalate]
  cases rooted with
  | true => rfl
  | false =>
    refine ofElements_false (fun e' he' => ?_) (by simp)
    obtain he' | he' := List.mem_append.1 he'
    · exact hes e' he'
    · rwa [List.mem_singleton.1 he']

theorem isRooted_stem (hes : ∀ e ∈ es, e ≠ [] ∧ '/' ∉ e) : isRooted (stem rooted es) = rooted := by
  cases rooted with
  | true => rfl
  | false =>
    cases es with
    | nil => rfl
    | cons e rest =>
      obtain ⟨hne, hslash⟩ := hes e List.mem_cons_self
      have hstem : stem false (e :: rest) = e ++ '/' :: rest.flatMap (· ++ ['/']) := by
        simp [stem]
      rw [hstem, isRooted_append hne, isRooted_eq_false hslash]

theorem walk_stem (hes : ∀ e ∈ es, e ≠ [] ∧ '/' ∉ e) :
    walk rooted kept (stem rooted es) = es.foldl (keep rooted) kept := by
  have hwalk : walk rooted kept (es.flatMap (· ++ ['/'])) = es.foldl (keep rooted) kept := by
    have hslash : ∀ e ∈ es ++ [[]], '/' ∉ e := by
      intro e he
      obtain he | he := List.mem_append.1 he
      · exact (hes e he).2
      · simp [List.mem_singleton.1 he]
    rw [← List.append_nil (es.flatMap _), flatMap_append_eq_intercalate, walk_intercalate hslash,
      List.foldl_append]
    show keep rooted _ [] = _
    exact keep_of_blank (.inl rfl)
  cases rooted with
  | false => exact hwalk
  | true =>
    have hroot : stem true es = [] ++ '/' :: es.flatMap (· ++ ['/']) := rfl
    rw [hroot, walk_append, walk_nil, hwalk]

theorem cleanChars_stem (h : IsKept rooted es.reverse) :
    cleanChars (stem rooted es) = ofElements rooted es := by
  have hes : ∀ e ∈ es, e ≠ [] ∧ '/' ∉ e := fun e he => h.of_mem (List.mem_reverse.2 he)
  rw [cleanChars, keptElements_eq, isRooted_stem hes, walk_stem hes, h.foldl_eq,
    List.reverse_reverse]

end Stem

/-- The elements of a path from wherever it starts, steps up included. -/
def wayElements (path : String) : List Element := (walk false [] path.toList).reverse

theorem exists_wayElements_eq (path : String) :
    ∃ ups names, wayElements path = List.replicate ups up ++ names ∧ ∀ e ∈ names, IsName e := by
  have hwalk : IsKept false (walk false [] path.toList) := isKept_walk isKept_nil path.toList
  obtain ⟨names, ups, hkept, hnames, -⟩ := hwalk
  refine ⟨ups, names.reverse, ?_, fun e he => hnames e (List.mem_reverse.1 he)⟩
  rw [wayElements, hkept, List.reverse_append, List.reverse_replicate]

theorem wayElements_of_isName {name : String} (h : IsName name.toList) :
    wayElements name = [name.toList] := by
  have hsplit : name.toList.splitOn '/' = [name.toList] := List.splitOn_eq_singleton h.no_slash
  have hwalk : walk false [] name.toList = [name.toList] := by
    rw [walk, hsplit, List.foldl_cons, List.foldl_nil, keep_of_isName h]
  rw [wayElements, hwalk, List.reverse_singleton]

section Directory

variable {directory : String} (hdirectory : directory ≠ "")

include hdirectory

theorem isAbsolute_join {path : String} (hpath : path ≠ "") :
    isAbsolute (join [directory, path]) = isAbsolute directory := by
  rw [join_pair hdirectory hpath, isAbsolute_clean, isAbsolute_append_slash hdirectory]

theorem elements_join {path : String} (hpath : path ≠ "") :
    elements (join [directory, path]) =
      ((wayElements path).foldl (keep (isAbsolute directory))
        (elements directory).reverse).reverse := by
  rw [join_pair hdirectory hpath, elements_clean, elements_append_slash hdirectory, walk_eq]
  rfl

theorem elements_join_name {name : String} (hname : IsName name.toList) :
    elements (join [directory, name]) = elements directory ++ [name.toList] := by
  have hne : name ≠ "" := fun hempty => hname.ne_nil (String.toList_eq_nil_iff.2 hempty)
  rw [elements_join hdirectory hne, wayElements_of_isName hname, List.foldl_cons, List.foldl_nil,
    keep_of_isName hname, List.reverse_cons, List.reverse_reverse]

theorem toList_join_name {name : String} (hname : IsName name.toList) :
    (join [directory, name]).toList =
      stem (isAbsolute directory) (elements directory) ++ name.toList := by
  have hne : name ≠ "" := fun hempty => hname.ne_nil (String.toList_eq_nil_iff.2 hempty)
  have hclean : join [directory, name] = clean (join [directory, name]) := by
    rw [join_pair hdirectory hne, clean_clean]
  have hkept := elements_join_name hdirectory hname
  have habsolute := isAbsolute_join hdirectory hne
  unfold elements at hkept
  unfold isAbsolute at habsolute
  rw [hclean, clean, String.toList_ofList, cleanChars, hkept, habsolute,
    ofElements_concat (fun _ => of_mem_keptElements) ⟨hname.ne_nil, hname.no_slash⟩]
  rfl

/-- A name joined to a directory is an entry of it. -/
theorem isEntry_join {name : String} (hname : IsName name.toList) :
    IsEntry directory name (join [directory, name]) := by
  have hne : name ≠ "" := fun hempty => hname.ne_nil (String.toList_eq_nil_iff.2 hempty)
  have htext := toList_join_name hdirectory hname
  constructor
  case clean_eq => rw [join_pair hdirectory hne, clean_clean]
  case baseName_eq =>
    rw [baseName, htext, baseNameChars_stem_append hname.ne_nil hname.no_slash,
      String.ofList_toList]
  case parent_eq =>
    have hkept := isKept_reverse_keptElements directory.toList
    rw [parent, htext, dropTailWhile_stem_append hname.no_slash, isAbsolute, elements,
      cleanChars_stem hkept]
    rfl

end Directory

/-- A path strictly below a directory: the elements of the directory and at least one name. -/
def Below (directory path : String) : Prop :=
  isAbsolute path = isAbsolute directory ∧
    ∃ names ≠ [], (∀ e ∈ names, IsName e) ∧ elements path = elements directory ++ names

/-- A way from a directory that ends below it: steps up, all the names they took back, and at least
one more. -/
def LeadsBelow (directory path : String) : Prop :=
  ∃ ups, ∃ names ≠ [], (∀ e ∈ names, IsName e) ∧
    wayElements path = List.replicate ups up ++
      (elements directory).drop ((elements directory).length - ups) ++ names

section Below

variable {directory : String} (hdirectory : isAbsolute directory)

include hdirectory

theorem isName_of_mem_elements (he : e ∈ elements directory) : IsName e := by
  have hkept := isKept_reverse_keptElements directory.toList
  obtain ⟨names, ups, heq, hnames, hroot⟩ := hkept
  obtain rfl := hroot hdirectory
  rw [elements, ← List.mem_reverse, heq, List.replicate_zero, List.append_nil] at he
  exact hnames e he

theorem ne_empty_of_isAbsolute : directory ≠ "" := by
  rintro rfl
  cases hdirectory

theorem elements_join_of_wayElements {path : String} (hpath : path ≠ "") {ups : Nat}
    (hnames : ∀ e ∈ names, IsName e) (hway : wayElements path = List.replicate ups up ++ names) :
    elements (join [directory, path]) =
      (elements directory).take ((elements directory).length - ups) ++ names := by
  have hdir : ∀ e ∈ (elements directory).reverse, IsName e :=
    fun e he => isName_of_mem_elements hdirectory (List.mem_reverse.1 he)
  rw [elements_join (ne_empty_of_isAbsolute hdirectory) hpath, hway, hdirectory,
    List.foldl_append, foldl_keep_root_ups ups hdir, foldl_keep_names hnames, List.reverse_append,
    List.reverse_reverse, List.reverse_drop, List.reverse_reverse, List.length_reverse]

/-- Below a directory is where a way from it ends that leads there. -/
theorem below_join_iff {path : String} (hpath : path ≠ "") :
    Below directory (join [directory, path]) ↔ LeadsBelow directory path := by
  have habsolute := isAbsolute_join (ne_empty_of_isAbsolute hdirectory) hpath
  constructor
  · rintro ⟨-, names, hne, hnames, helements⟩
    obtain ⟨ups, others, hway, hothers⟩ := exists_wayElements_eq path
    rw [elements_join_of_wayElements hdirectory hpath hothers hway] at helements
    have hback : others =
        (elements directory).drop ((elements directory).length - ups) ++ names := by
      refine List.append_cancel_left (helements.trans ?_)
      rw [← List.append_assoc, List.take_append_drop]
    exact ⟨ups, names, hne, hnames, by rw [hway, hback, List.append_assoc]⟩
  · rintro ⟨ups, names, hne, hnames, hway⟩
    refine ⟨habsolute, names, hne, hnames, ?_⟩
    have hall : ∀ e ∈ (elements directory).drop ((elements directory).length - ups) ++ names,
        IsName e := by
      intro e he
      obtain he | he := List.mem_append.1 he
      · exact isName_of_mem_elements hdirectory (List.mem_of_mem_drop he)
      · exact hnames e he
    rw [List.append_assoc] at hway
    rw [elements_join_of_wayElements hdirectory hpath hall hway, ← List.append_assoc,
      List.take_append_drop]

end Below

/-- An element by itself leads below a directory unless it stays there or leads up. -/
theorem leadsBelow_iff_of_not_mem {directory name : String} (hne : name ≠ "")
    (hslash : '/' ∉ name.toList) : LeadsBelow directory name ↔ name ≠ "." ∧ name ≠ ".." := by
  constructor
  · rintro ⟨ups, names, hsome, hnames, hway⟩
    obtain ⟨e, he⟩ := List.exists_mem_of_ne_nil names hsome
    have hmem : e ∈ wayElements name := hway ▸ List.mem_append_right _ he
    refine ⟨?_, ?_⟩
    · rintro rfl
      have hhere : wayElements "." = [] := by decide
      simp [hhere] at hmem
    · rintro rfl
      have hup : wayElements ".." = [up] := by decide
      rw [hup, List.mem_singleton] at hmem
      exact (hnames e he).ne_up hmem
  · rintro ⟨hhere, hup⟩
    have hname := isName_toList hne hslash hhere hup
    refine ⟨0, [name.toList], List.cons_ne_nil _ _, by simpa using hname, ?_⟩
    simp [wayElements_of_isName hname]

end WorkflowPod.Path
