import WorkflowPod.Proofs.Path.Lexical

/-!
Joined paths. What joining gives is decided by whether the first part starts at the root and by
where the parts lead, one after the other. Main statement: parts may be joined from left to right,
the empty ones left out, and those that do not start at the root cleaned before.
-/
namespace WorkflowPod.Path

variable {rooted : Bool} {kept : List Element} {xs ys : List String}

/-- Whether the first part that is not empty starts at the root. -/
def start? (parts : List String) : Option Bool := (parts.find? (· ≠ "")).map isAbsolute

/-- Where parts lead from a place, one after the other. -/
def walkParts (rooted : Bool) (kept : List Element) (parts : List String) : List Element :=
  parts.foldl (fun kept part => walk rooted kept part.toList) kept

theorem start?_append : start? (xs ++ ys) = (start? xs).or (start? ys) := by
  rw [start?, List.find?_append, Option.map_or]
  rfl

theorem start?_eq_none_iff : start? xs = none ↔ ∀ x ∈ xs, x = "" := by
  simp [start?]

theorem start?_cons {x : String} (hx : x ≠ "") : start? (x :: xs) = some (isAbsolute x) := by
  simp [start?, hx]

theorem start?_filter (xs : List String) : start? (xs.filter (· ≠ "")) = start? xs := by
  simp [start?, List.find?_filter]

theorem walkParts_cons (x : String) :
    walkParts rooted kept (x :: xs) = walkParts rooted (walk rooted kept x.toList) xs := rfl

theorem walkParts_append :
    walkParts rooted kept (xs ++ ys) = walkParts rooted (walkParts rooted kept xs) ys :=
  List.foldl_append

/-- Empty parts lead nowhere. -/
theorem walkParts_filter (xs : List String) :
    walkParts rooted kept (xs.filter (· ≠ "")) = walkParts rooted kept xs := by
  induction xs generalizing kept with
  | nil => rfl
  | cons x xs ih =>
    by_cases hx : x = ""
    · have hstay : walk rooted kept x.toList = kept := by
        rw [hx]
        exact walk_nil
      rw [List.filter_cons_of_neg (by simpa using hx), ih, walkParts_cons, hstay]
    · rw [List.filter_cons_of_pos (by simpa using hx), walkParts_cons, ih, walkParts_cons]

theorem isKept_walkParts (h : IsKept rooted kept) (xs : List String) :
    IsKept rooted (walkParts rooted kept xs) := by
  induction xs generalizing kept with
  | nil => exact h
  | cons x xs ih => exact ih (isKept_walk h x.toList)

/-- With slashes between them the parts are one path. -/
theorem walk_intercalate_toList (xs : List String) :
    walk rooted kept (['/'].intercalate (xs.map String.toList)) = walkParts rooted kept xs := by
  induction xs generalizing kept with
  | nil => exact walk_nil
  | cons x xs ih =>
    cases xs with
    | nil =>
      rw [List.map_singleton, List.intercalate_singleton]
      rfl
    | cons next xs =>
      rw [List.map_cons, List.map_cons, List.intercalate_cons_cons, List.append_assoc,
        List.singleton_append, walk_append, ← List.map_cons, ih]
      rfl

theorem join_filter (xs : List String) : join (xs.filter (· ≠ "")) = join xs := by
  have hmap (xs : List String) : (xs.map String.toList).filter (!·.isEmpty) =
      (xs.filter (· ≠ "")).map String.toList := by
    rw [List.filter_map]
    refine congrArg _ (List.filter_congr fun x _ => ?_)
    rw [Bool.eq_iff_iff]
    simp
  unfold join joinChars
  simp only [hmap, List.filter_filter, Bool.and_self]

theorem join_of_start?_eq_none (h : start? xs = none) : join xs = "" := by
  have hnil : xs.filter (· ≠ "") = [] := by simpa using start?_eq_none_iff.1 h
  rw [← join_filter, hnil]
  rfl

theorem toList_join (h : start? xs = some rooted) :
    (join xs).toList = ofElements rooted (walkParts rooted [] xs).reverse := by
  rw [← start?_filter] at h
  rw [← join_filter, ← walkParts_filter]
  have hall : ∀ x ∈ xs.filter (· ≠ ""), x ≠ "" := by simp
  generalize xs.filter (· ≠ "") = xs at h hall
  cases xs with
  | nil => cases h
  | cons x xs =>
    obtain ⟨hx, -⟩ := List.forall_mem_cons.1 hall
    rw [start?_cons hx] at h
    have hrooted : isRooted (['/'].intercalate ((x :: xs).map String.toList)) = rooted := by
      obtain ⟨tail, htail⟩ := exists_intercalate_eq x.toList (xs.map String.toList)
      rw [List.map_cons, htail, isRooted_append (by simpa using hx)]
      exact Option.some.inj h
    have hparts : ((x :: xs).map String.toList).filter (!·.isEmpty) =
        (x :: xs).map String.toList := by
      refine List.filter_eq_self.2 fun part hpart => ?_
      obtain ⟨own, hown, rfl⟩ := List.mem_map.1 hpart
      simpa using hall own hown
    rw [join, String.toList_ofList, joinChars, hparts]
    simp only [List.map_cons, List.isEmpty_cons, Bool.false_eq_true, if_false]
    rw [← List.map_cons, cleanChars, keptElements_eq, hrooted, walk_intercalate_toList]

/-- Nothing else about the parts makes a difference. -/
theorem join_congr (hstart : start? xs = start? ys)
    (hwalk : ∀ rooted, walkParts rooted [] xs = walkParts rooted [] ys) : join xs = join ys := by
  cases h : start? ys with
  | none => rw [join_of_start?_eq_none h, join_of_start?_eq_none (hstart.trans h)]
  | some rooted =>
    rw [← String.toList_inj, toList_join h, toList_join (hstart.trans h), hwalk]

theorem mem_walkParts (he : e ∈ (walkParts rooted [] xs).reverse) : e ≠ [] ∧ '/' ∉ e :=
  (isKept_walkParts isKept_nil xs).of_mem (List.mem_reverse.1 he)

theorem isAbsolute_join_of_start? (h : start? xs = some rooted) :
    isAbsolute (join xs) = rooted := by
  rw [isAbsolute, toList_join h, isRooted_ofElements fun _ => mem_walkParts]

theorem join_ne_empty_of_start? (h : start? xs = some rooted) : join xs ≠ "" := by
  rw [← String.toList_inj.ne, toList_join h]
  exact ofElements_ne_nil fun _ => mem_walkParts

theorem join_ne_empty {base : String} (hbase : base ≠ "") (paths : List String) :
    join (base :: paths) ≠ "" := join_ne_empty_of_start? (start?_cons hbase)

/-- A joined path leads where its parts lead. -/
theorem walk_join (h : start? xs = some rooted) :
    walk rooted [] (join xs).toList = walkParts rooted [] xs := by
  have hkept : IsKept rooted (walkParts rooted [] xs).reverse.reverse := by
    rw [List.reverse_reverse]
    exact isKept_walkParts isKept_nil xs
  rw [toList_join h, walk_ofElements fun _ => mem_walkParts, hkept.foldl_eq, List.reverse_reverse]

theorem join_eq_empty_iff : join xs = "" ↔ ∀ x ∈ xs, x = "" := by
  rw [← start?_eq_none_iff]
  constructor
  · intro hempty
    cases h : start? xs with
    | none => rfl
    | some rooted => exact absurd hempty (join_ne_empty_of_start? h)
  · exact join_of_start?_eq_none

/-- Parts may be joined before more are joined to them. -/
theorem join_join_cons (xs ys : List String) : join (join xs :: ys) = join (xs ++ ys) := by
  cases h : start? xs with
  | none =>
    have hnil : xs.filter (· ≠ "") = [] := by simpa using start?_eq_none_iff.1 h
    rw [join_of_start?_eq_none h, ← join_filter ("" :: ys), ← join_filter (xs ++ ys),
      List.filter_append, hnil]
    rfl
  | some rooted =>
    have hstart : start? (join xs :: ys) = some rooted := by
      rw [start?_cons (join_ne_empty_of_start? h), isAbsolute_join_of_start? h]
    have hstart' : start? (xs ++ ys) = some rooted := by
      rw [start?_append, h, Option.some_or]
    rw [← String.toList_inj, toList_join hstart, toList_join hstart', walkParts_cons, walk_join h,
      walkParts_append]

/-- Without a slash in front a path leads from anywhere where its clean form leads. -/
theorem walk_clean {path : String} (h : isAbsolute path = false) :
    walk rooted kept (clean path).toList = walk rooted kept path.toList := by
  have hrooted : isRooted path.toList = false := h
  rw [clean, String.toList_ofList, cleanChars, walk_ofElements fun _ => of_mem_keptElements,
    keptElements_eq, hrooted, ← walk_eq]

theorem join_replace_clean (h : ∃ x ∈ xs, x ≠ "") {path : String} (hpath : isAbsolute path = false)
    (ys : List String) : join (xs ++ clean path :: ys) = join (xs ++ path :: ys) := by
  obtain ⟨rooted, hstart⟩ : ∃ rooted, start? xs = some rooted := by
    rw [← Option.ne_none_iff_exists', Ne, start?_eq_none_iff]
    simpa using h
  refine join_congr ?_ fun rooted => ?_
  · rw [start?_append, start?_append, hstart, Option.some_or, Option.some_or]
  · rw [walkParts_append, walkParts_append, walkParts_cons, walkParts_cons, walk_clean hpath]

/-- Joining goes from left to right and takes no notice of empty parts. A part after the first may
be cleaned before unless it starts at the root, and the whole starts where its first part does. -/
theorem join_from_left :
    (∀ xs ys, join (xs ++ ys) = join ([join xs] ++ ys)) ∧
    (∀ xs ys, xs.filter (· ≠ "") = ys.filter (· ≠ "") → join xs = join ys) ∧
    (∀ xs, join xs = "" ↔ ∀ x ∈ xs, x = "") ∧
    (∀ xs path ys, (∃ x ∈ xs, x ≠ "") → isAbsolute path = false →
      join (xs ++ clean path :: ys) = join (xs ++ path :: ys)) ∧
    ∀ xs, isAbsolute (join xs) = (xs.find? (· ≠ "")).any isAbsolute := by
  refine ⟨fun xs ys => (join_join_cons xs ys).symm, fun xs ys h => ?_, fun xs => join_eq_empty_iff,
    fun xs path ys h hpath => join_replace_clean h hpath ys, fun xs => ?_⟩
  · rw [← join_filter xs, h, join_filter]
  · cases h : xs.find? (· ≠ "") with
    | none =>
      have hstart : start? xs = none := by rw [start?, h, Option.map_none]
      rw [join_of_start?_eq_none hstart]
      rfl
    | some x =>
      have hstart : start? xs = some (isAbsolute x) := by rw [start?, h, Option.map_some]
      rw [isAbsolute_join_of_start? hstart, Option.any_some]

theorem join_from_left_climbing :
    let xs := ["", "mnt//data", "../.."]
    let ys := ["", "../a/./..//b", "", "/c/"]
    join (xs ++ ys) = join ([join xs] ++ ys) ∧ join (xs ++ ys) = "../b/c" ∧
      xs.filter (· ≠ "") = ["mnt//data", "../.."] ∧ join xs = join ["mnt//data", "../.."] ∧
      (∃ x ∈ xs, x ≠ "") ∧ isAbsolute "../a/./..//b" = false ∧
      join (xs ++ clean "../a/./..//b" :: ["/c/"]) = join (xs ++ "../a/./..//b" :: ["/c/"]) ∧
      isAbsolute (join xs) = false := by
  intro xs ys
  obtain ⟨hleft, hempty, -, hclean, habsolute⟩ := join_from_left
  have hxs : ∃ x ∈ xs, x ≠ "" := ⟨"mnt//data", by decide, by decide⟩
  exact ⟨hleft xs ys, by decide, by decide, hempty _ _ (by decide), hxs, by decide,
    hclean xs _ ["/c/"] hxs (by decide), (habsolute xs).trans (by decide)⟩

/-- Below a place the clean form of a part that starts at the root can lead elsewhere. -/
example : join ["a", "/.."] = "." ∧ join ["a", clean "/.."] = "a" := by decide

end WorkflowPod.Path
