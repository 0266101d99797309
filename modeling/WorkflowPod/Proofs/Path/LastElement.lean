import WorkflowPod.Proofs.Path.Lexical

/-!
The last element of a path, found from the end, and the elements of the path, found from its start.
Main statement: both come to the same, before and after cleaning, and joined to a directory the last
element is an entry of it.
-/
namespace WorkflowPod.Path

open Text

variable {path : List Char}

theorem splitOn_append_slashes {name : List Char} (h : '/' ∉ name) (n : Nat) :
    (name ++ List.replicate n '/').splitOn '/' = name :: List.replicate n [] := by
  induction n with
  | zero =>
    rw [List.replicate_zero, List.append_nil]
    exact List.splitOn_eq_singleton h
  | succ n ih =>
    rw [List.replicate_succ', ← List.append_assoc, List.splitOn_append_cons_self, ih,
      List.replicate_succ']
    rfl

theorem foldl_keep_blank {rooted : Bool} {kept : List Element} (n : Nat) :
    (List.replicate n []).foldl (keep rooted) kept = kept := by
  induction n with
  | zero => rfl
  | succ n ih => rwa [List.replicate_succ, List.foldl_cons, keep_of_blank (.inl rfl)]

section LastElement

variable {c : Char} (hc : c ∈ path) (hslash : c ≠ '/')

include hc hslash

theorem baseNameChars_append_slashes (n : Nat) :
    baseNameChars (path ++ List.replicate n '/') = baseNameChars path := by
  have hslashes : ∀ d ∈ List.replicate n '/', (d == '/') = true := by
    intro d hd
    simpa using List.eq_of_mem_replicate hd
  rw [← List.reverse_inj, reverse_baseNameChars (List.mem_append_left _ hc) hslash,
    reverse_baseNameChars hc hslash, List.reverse_append, List.reverse_replicate,
    List.dropWhile_append_of_pos hslashes]

/-- A path by what stands before its last element and the slashes after it. -/
theorem exists_eq_append_baseNameChars :
    ∃ front n, path = front ++ (baseNameChars path ++ List.replicate n '/') ∧
      (front = [] ∨ ∃ before, front = before ++ ['/']) := by
  have hname := reverse_baseNameChars hc hslash
  have hslashes : ∀ d ∈ path.reverse.takeWhile (· == '/'), d = '/' := by
    intro d hd
    simpa using List.mem_takeWhile_imp hd
  have hpath := List.takeWhile_append_dropWhile (p := (· == '/')) (l := path.reverse)
  have hrest := List.takeWhile_append_dropWhile (p := (· != '/'))
    (l := path.reverse.dropWhile (· == '/'))
  rw [← hname] at hrest
  rw [List.eq_replicate_of_mem hslashes, ← hrest] at hpath
  generalize (path.reverse.takeWhile (· == '/')).length = n at hpath
  generalize hfront : (path.reverse.dropWhile (· == '/')).dropWhile (· != '/') = front at hpath
  refine ⟨front.reverse, n, ?_, ?_⟩
  · rw [← List.reverse_inj, ← hpath, List.reverse_append, List.reverse_append,
      List.reverse_replicate, List.reverse_reverse, List.append_assoc]
  · cases front with
    | nil => exact .inl rfl
    | cons d front =>
      have hd := List.head_dropWhile_not (· != '/') (l := path.reverse.dropWhile (· == '/'))
        (by simp [hfront])
      simp only [hfront, List.head_cons] at hd
      obtain rfl : d = '/' := by simpa using hd
      exact .inr ⟨front.reverse, List.reverse_cons⟩

/-- Among the pieces between slashes only empty ones come after the last element. -/
theorem exists_splitOn_eq :
    ∃ before n, path.splitOn '/' = before ++ baseNameChars path :: List.replicate n [] := by
  have hname := slash_not_mem_baseNameChars hc hslash
  obtain ⟨front, n, hpath, rfl | ⟨before, rfl⟩⟩ := exists_eq_append_baseNameChars hc hslash
  · refine ⟨[], n, ?_⟩
    conv_lhs => rw [hpath]
    exact splitOn_append_slashes hname n
  · refine ⟨before.splitOn '/', n, ?_⟩
    conv_lhs => rw [hpath]
    rw [List.append_assoc, List.singleton_append, List.splitOn_append_cons_self,
      splitOn_append_slashes hname n]

theorem getLast?_filter_splitOn :
    ((path.splitOn '/').filter (· ≠ [])).getLast? = some (baseNameChars path) := by
  obtain ⟨before, n, hsplit⟩ := exists_splitOn_eq hc hslash
  have hne := baseNameChars_ne_nil hc hslash
  have hblank : (List.replicate n ([] : List Char)).filter (· ≠ []) = [] :=
    List.filter_replicate_of_neg (by simp)
  rw [hsplit, List.filter_append, List.filter_cons_of_pos (by simpa using hne), hblank,
    List.getLast?_concat]

/-- Of the elements that are kept the last one is the last of all if it is a name. -/
theorem exists_keptElements_eq (hname : IsName (baseNameChars path)) :
    ∃ es, keptElements path = es ++ [baseNameChars path] := by
  obtain ⟨before, n, hsplit⟩ := exists_splitOn_eq hc hslash
  refine ⟨(before.foldl (keep (isRooted path)) []).reverse, ?_⟩
  rw [keptElements, hsplit, List.foldl_append, List.foldl_cons, keep_of_isName hname,
    foldl_keep_blank, List.reverse_cons]

theorem baseNameChars_cleanChars (hname : IsName (baseNameChars path)) :
    baseNameChars (cleanChars path) = baseNameChars path := by
  obtain ⟨es, hes⟩ := exists_keptElements_eq hc hslash hname
  have hmem (e : Element) (he : e ∈ es) : e ≠ [] ∧ '/' ∉ e :=
    of_mem_keptElements (hes ▸ List.mem_append_left _ he)
  rw [cleanChars, hes, ofElements_concat hmem ⟨hname.ne_nil, hname.no_slash⟩,
    baseNameChars_stem_append hname.ne_nil hname.no_slash]

end LastElement

theorem baseNameChars_of_not_mem {name : List Char} (hne : name ≠ []) (hslash : '/' ∉ name) :
    baseNameChars name = name := by
  have hlast : baseNameChars (stem false [] ++ name) = name := baseNameChars_stem_append hne hslash
  exact hlast

/-- The last element of a path that is not made up of slashes is its last piece that is not empty,
whatever slashes come after it. Unless it stays where it is or leads up, the clean path ends with it
too, and it is an entry of every directory it is joined to. -/
theorem baseName_last_piece {path : String} (h : ∃ c ∈ path.toList, c ≠ '/') :
    ((path.toList.splitOn '/').filter (· ≠ [])).getLast? = some (baseName path).toList ∧
    baseName path ≠ "" ∧ '/' ∉ (baseName path).toList ∧
    (∀ n, baseName (path ++ String.ofList (List.replicate n '/')) = baseName path) ∧
    baseName (baseName path) = baseName path ∧
    (baseName path ≠ "." → baseName path ≠ ".." →
      baseName (clean path) = baseName path ∧
      ∀ directory, directory ≠ "" →
        IsEntry directory (baseName path) (join [directory, baseName path])) := by
  have hne := baseName_ne_empty h
  have hslash := slash_not_mem_baseName h
  obtain ⟨c, hc, hcslash⟩ := h
  have hchars : (baseName path).toList = baseNameChars path.toList := by
    rw [baseName, String.toList_ofList]
  refine ⟨?_, hne, hslash, fun n => ?_, ?_, fun hhere hup => ⟨?_, fun directory hdirectory => ?_⟩⟩
  · rw [hchars, getLast?_filter_splitOn hc hcslash]
  · rw [baseName, String.toList_append, String.toList_ofList,
      baseNameChars_append_slashes hc hcslash, baseName]
  · have hself := baseNameChars_of_not_mem (mt String.toList_eq_nil_iff.1 hne) hslash
    rw [← String.toList_inj]
    conv_lhs => rw [baseName, String.toList_ofList, hself]
  · have hname : IsName (baseName path).toList := isName_toList hne hslash hhere hup
    rw [hchars] at hname
    rw [baseName, clean, String.toList_ofList, baseNameChars_cleanChars hc hcslash hname, baseName]
  · exact isEntry_join hdirectory (isName_toList hne hslash hhere hup)

theorem baseName_last_piece_repository :
    let path := "https://host//org/../repo.git//"
    let directory := "mnt/..//data/"
    (∃ c ∈ path.toList, c ≠ '/') ∧ baseName path = "repo.git" ∧
      baseName (path ++ "//") = "repo.git" ∧ baseName (clean path) = "repo.git" ∧
      directory ≠ "" ∧ join [directory, baseName path] = "data/repo.git" ∧
      IsEntry directory "repo.git" (join [directory, baseName path]) := by
  intro path directory
  have hletter : ∃ c ∈ path.toList, c ≠ '/' := ⟨'h', by decide, by decide⟩
  have hname : baseName path = "repo.git" := by decide
  obtain ⟨-, -, -, hslashes, -, hrest⟩ := baseName_last_piece hletter
  obtain ⟨hclean, hentry⟩ := hrest (by rw [hname]; decide) (by rw [hname]; decide)
  have hlonger := hslashes 2
  have hdirectory : directory ≠ "" := by decide
  have hjoined := hentry directory hdirectory
  rw [hname] at hlonger hclean hjoined ⊢
  exact ⟨hletter, rfl, hlonger, hclean, hdirectory, by decide, hjoined⟩

end WorkflowPod.Path
