import Mathlib.Data.List.Basic
import WorkflowPod.Path.Reference

/-!
References and their escapes. Main statement: an escaped text is read back whole, and two of them
with a colon between them are read back as source and target, unless the source ends in a backslash.
-/
namespace WorkflowPod.Path.Reference

/-- A character as it is written in a reference: after a backslash if it has a meaning there. -/
def escapeChar (c : Char) : List Char := if c = '\\' ∨ c = ':' then ['\\', c] else [c]

def escapeChars (s : List Char) : List Char := s.flatMap escapeChar

/-- A text as it is written in a reference. -/
def escape (text : String) : String := String.ofList (escapeChars text.toList)

/-- A text in which only the backslashes are escaped, as it is after the first of the two steps that
remove escapes. -/
def doubleBackslashes (s : List Char) : List Char :=
  s.flatMap fun c => if c = '\\' then ['\\', '\\'] else [c]

theorem unescapeColons_cons {c : Char} {s : List Char} (h : c ≠ '\\' ∨ s.head? ≠ some ':') :
    unescapeColons (c :: s) = c :: unescapeColons s := by
  conv_lhs => unfold unescapeColons
  split <;> simp_all

theorem unescapeBackslashes_cons {c : Char} {s : List Char} (h : c ≠ '\\' ∨ s.head? ≠ some '\\') :
    unescapeBackslashes (c :: s) = c :: unescapeBackslashes s := by
  conv_lhs => unfold unescapeBackslashes
  split <;> simp_all

theorem escapeChars_cons (c : Char) (s : List Char) :
    escapeChars (c :: s) = escapeChar c ++ escapeChars s := List.flatMap_cons

/-- An escaped text starts with no colon, whatever comes before it. -/
theorem head?_escapeChars_append (s : List Char) {t : List Char} (ht : t.head? ≠ some ':') :
    (escapeChars s ++ t).head? ≠ some ':' := by
  cases s with
  | nil => exact ht
  | cons c s =>
    rw [escapeChars_cons, escapeChar]
    split
    · simp
    · rename_i hc
      have hcolon : c ≠ ':' := fun h => hc (.inr h)
      simpa using hcolon

/-- The first step removes the escapes of colons alone. -/
theorem unescapeColons_escapeChars_append (s : List Char) {t : List Char}
    (ht : t.head? ≠ some ':') :
    unescapeColons (escapeChars s ++ t) = doubleBackslashes s ++ unescapeColons t := by
  induction s with
  | nil => rfl
  | cons c s ih =>
    have hrest := head?_escapeChars_append s ht
    rw [escapeChars_cons, doubleBackslashes, List.flatMap_cons, ← doubleBackslashes,
      List.append_assoc, List.append_assoc, ← ih]
    by_cases hcolon : c = ':'
    · subst hcolon
      simp [escapeChar, unescapeColons]
    by_cases hbackslash : c = '\\'
    · subst hbackslash
      have hfirst : ('\\' :: (escapeChars s ++ t)).head? ≠ some ':' := by simp
      simp only [escapeChar, true_or, if_true, List.cons_append, List.nil_append]
      rw [unescapeColons_cons (.inr hfirst), unescapeColons_cons (.inr hrest)]
    · simp only [escapeChar, hcolon, hbackslash, or_self, if_false, List.cons_append,
        List.nil_append]
      exact unescapeColons_cons (.inl hbackslash)

/-- The second step removes those of backslashes. -/
theorem unescapeBackslashes_doubleBackslashes_append (s t : List Char) :
    unescapeBackslashes (doubleBackslashes s ++ t) = s ++ unescapeBackslashes t := by
  induction s with
  | nil => rfl
  | cons c s ih =>
    rw [doubleBackslashes, List.flatMap_cons, ← doubleBackslashes, List.append_assoc,
      List.cons_append, ← ih]
    by_cases hbackslash : c = '\\'
    · subst hbackslash
      rfl
    · simp only [hbackslash, if_false, List.cons_append, List.nil_append]
      exact unescapeBackslashes_cons (.inl hbackslash)

theorem unescapeChars_escapeChars (s : List Char) : unescapeChars (escapeChars s) = s := by
  have hcolons := unescapeColons_escapeChars_append s (t := []) (by simp)
  have hbackslashes := unescapeBackslashes_doubleBackslashes_append s []
  rw [List.append_nil] at hcolons
  rw [unescapeChars, hcolons]
  simpa [unescapeColons, unescapeBackslashes] using hbackslashes

/-- Without a backslash there is nothing to remove. -/
theorem unescapeChars_append {lead : List Char} (hlead : '\\' ∉ lead) (s : List Char) :
    unescapeChars (lead ++ s) = lead ++ unescapeChars s := by
  induction lead with
  | nil => rfl
  | cons c lead ih =>
    have hc : c ≠ '\\' := fun h => hlead (by simp [h])
    have hrest : '\\' ∉ lead := fun hmem => hlead (List.mem_cons_of_mem _ hmem)
    have hstep : unescapeChars (c :: (lead ++ s)) = c :: unescapeChars (lead ++ s) := by
      rw [unescapeChars, unescapeColons_cons (.inl hc), unescapeBackslashes_cons (.inl hc),
        ← unescapeChars]
    rw [List.cons_append, hstep, ih hrest, List.cons_append]

theorem cut?_cons_of_some {s source target : List Char} (h : cut? s = some (source, target))
    (c : Char) : cut? (c :: s) = some (c :: source, target) := by
  simp [cut?, h]

/-- The last separator stays the last, whatever comes before it. -/
theorem cut?_append_of_some {s source target : List Char} (h : cut? s = some (source, target))
    (lead : List Char) : cut? (lead ++ s) = some (lead ++ source, target) := by
  induction lead with
  | nil => exact h
  | cons c lead ih => exact cut?_cons_of_some ih c

theorem cut?_cons_of_none {s : List Char} (h : cut? s = none) {c : Char}
    (hs : c = '\\' ∨ s.head? ≠ some ':') : cut? (c :: s) = none := by
  unfold cut?
  rw [h]
  dsimp only
  split
  · simp_all
  · rfl

/-- A text without colons before one that neither has a separator nor starts with one adds none. -/
theorem cut?_append_of_none {s : List Char} (h : cut? s = none) (hs : s.head? ≠ some ':')
    {lead : List Char} (hlead : ':' ∉ lead) : cut? (lead ++ s) = none := by
  induction lead with
  | nil => exact h
  | cons c lead ih =>
    have hrest : ':' ∉ lead := fun hmem => hlead (List.mem_cons_of_mem _ hmem)
    refine cut?_cons_of_none (ih hrest) (.inr ?_)
    cases lead with
    | nil => exact hs
    | cons d lead => exact fun hd => hrest (by simp_all)

/-- A colon in the second place separates, unless a later one does. -/
theorem cut?_colon {c : Char} {target : List Char} (h : cut? (':' :: target) = none)
    (hc : c ≠ '\\') (htarget : target ≠ []) : cut? (c :: ':' :: target) = some ([c], target) := by
  obtain ⟨d, after, rfl⟩ := List.exists_cons_of_ne_nil htarget
  unfold cut?
  rw [h]
  simp [hc]

/-- An escaped text has no separator and adds none. -/
theorem cut?_escapeChars_append (s : List Char) {t : List Char} (h : cut? t = none)
    (ht : t.head? ≠ some ':') : cut? (escapeChars s ++ t) = none := by
  induction s with
  | nil => exact h
  | cons c s ih =>
    have hrest := head?_escapeChars_append s ht
    have hchar : cut? (c :: (escapeChars s ++ t)) = none := cut?_cons_of_none ih (.inr hrest)
    rw [escapeChars_cons, List.append_assoc, escapeChar]
    split
    · exact cut?_cons_of_none hchar (.inl rfl)
    · exact hchar

theorem cut?_escapeChars (s : List Char) : cut? (escapeChars s) = none := by
  simpa using cut?_escapeChars_append s (t := []) rfl (by simp)

/-- A colon between escaped texts separates them if the first does not end in a backslash. -/
theorem cut?_escaped_pair (source : List Char) {c : Char} (hc : c ≠ '\\') {target : List Char}
    (htarget : target ≠ []) :
    cut? (escapeChars (source ++ [c]) ++ ':' :: escapeChars target) =
      some (escapeChars (source ++ [c]), escapeChars target) := by
  have hlast : ∃ lead, escapeChars (source ++ [c]) = lead ++ [c] := by
    refine ⟨escapeChars source ++ (escapeChar c).dropLast, ?_⟩
    rw [escapeChars, List.flatMap_append, List.append_assoc]
    by_cases hcolon : c = ':' <;> simp [escapeChars, escapeChar, hc, hcolon]
  have htarget' : escapeChars target ≠ [] := by
    obtain ⟨d, rest, rfl⟩ := List.exists_cons_of_ne_nil htarget
    rw [escapeChars_cons, escapeChar]
    split <;> simp
  have hnone : cut? (':' :: escapeChars target) = none :=
    cut?_cons_of_none (cut?_escapeChars target)
      (.inr (by simpa using head?_escapeChars_append target (t := []) (by simp)))
  obtain ⟨lead, hlead⟩ := hlast
  have hcut := cut?_append_of_some (cut?_colon hnone hc htarget') lead
  rw [hlead, List.append_assoc]
  exact hcut

/-- What a source that ends in a backslash comes to: the colon after it is taken for escaped. -/
theorem escaped_pair_of_backslash (source target : List Char) :
    let s := escapeChars (source ++ ['\\']) ++ ':' :: escapeChars target
    cut? s = none ∧ unescapeChars s = source ++ '\\' :: ':' :: target := by
  intro s
  have hs : s = escapeChars source ++ '\\' :: '\\' :: ':' :: escapeChars target := by
    simp [s, escapeChars, escapeChar]
  have htarget : (escapeChars target).head? ≠ some ':' := by
    simpa using head?_escapeChars_append target (t := []) (by simp)
  rw [hs]
  constructor
  · have hcolon : cut? (':' :: escapeChars target) = none :=
      cut?_cons_of_none (cut?_escapeChars target) (.inr htarget)
    have hlast := cut?_cons_of_none (cut?_cons_of_none hcolon (.inl rfl)) (.inl rfl)
    exact cut?_escapeChars_append source hlast (by simp)
  · have hcolons : unescapeColons ('\\' :: '\\' :: ':' :: escapeChars target) =
        '\\' :: ':' :: doubleBackslashes target := by
      have hfirst : ('\\' :: ':' :: escapeChars target).head? ≠ some ':' := by simp
      have hrest := unescapeColons_escapeChars_append target (t := []) (by simp)
      rw [unescapeColons_cons (.inr hfirst)]
      simpa [unescapeColons] using hrest
    have hrest := unescapeBackslashes_doubleBackslashes_append target []
    rw [List.append_nil, unescapeBackslashes, List.append_nil] at hrest
    rw [unescapeChars, unescapeColons_escapeChars_append source (by simp), hcolons,
      unescapeBackslashes_doubleBackslashes_append,
      unescapeBackslashes_cons (.inr (by simp)), unescapeBackslashes_cons (.inl (by simp)), hrest]

theorem parse_of_cut?_some {text : String} {source target : List Char}
    (h : cut? text.toList = some (source, target)) :
    parse text =
      ⟨String.ofList (unescapeChars source), some (String.ofList (unescapeChars target))⟩ := by
  rw [parse, h]

theorem parse_of_cut?_none {text : String} (h : cut? text.toList = none) :
    parse text = ⟨unescape text, none⟩ := by
  rw [parse, h]

/-- A text comes back from its escaped form, alone and as one of two halves. As a source it must not
end in a backslash: the colon after it would be taken for part of the text. -/
theorem parse_escape :
    (∀ text, unescape (escape text) = text ∧ parse (escape text) = ⟨text, none⟩) ∧
    ∀ source target, source ≠ "" → target ≠ "" →
      let reference := escape source ++ ":" ++ escape target
      (parse reference = ⟨source, some target⟩ ↔ source.toList.getLast? ≠ some '\\') ∧
      (source.toList.getLast? = some '\\' →
        parse reference = ⟨source ++ ":" ++ target, none⟩) := by
  have hunescape (text : String) : unescape (escape text) = text := by
    rw [unescape, escape, String.toList_ofList, unescapeChars_escapeChars, String.ofList_toList]
  refine ⟨fun text => ⟨hunescape text, ?_⟩, fun source target hsource htarget => ?_⟩
  · have hcut : cut? (escape text).toList = none := by
      rw [escape, String.toList_ofList]
      exact cut?_escapeChars _
    rw [parse_of_cut?_none hcut, hunescape]
  · intro reference
    have hreference : reference.toList =
        escapeChars source.toList ++ ':' :: escapeChars target.toList := by
      simp [reference, escape, String.toList_append, String.toList_ofList]
    have hsource' : source.toList ≠ [] := by simpa using hsource
    have htarget' : target.toList ≠ [] := by simpa using htarget
    obtain ⟨lead, c, hlast⟩ := (List.eq_nil_or_concat source.toList).resolve_left hsource'
    rw [List.concat_eq_append] at hlast
    have hgetLast : source.toList.getLast? = some c := by rw [hlast, List.getLast?_concat]
    rw [hgetLast]
    by_cases hbackslash : c = '\\'
    · obtain ⟨hcut, hplain⟩ := escaped_pair_of_backslash lead target.toList
      rw [← hbackslash, ← hlast, ← hreference] at hcut hplain
      have hparse : parse reference = ⟨source ++ ":" ++ target, none⟩ := by
        have htext : (source ++ ":" ++ target).toList =
            lead ++ c :: ':' :: target.toList := by
          simp [String.toList_append, hlast]
        rw [parse_of_cut?_none hcut, unescape, hplain, ← htext, String.ofList_toList]
      rw [hparse]
      simp [hbackslash]
    · have hcut := cut?_escaped_pair lead hbackslash htarget'
      rw [← hlast, ← hreference] at hcut
      have hparse : parse reference = ⟨source, some target⟩ := by
        rw [parse_of_cut?_some hcut, unescapeChars_escapeChars, unescapeChars_escapeChars,
          String.ofList_toList, String.ofList_toList]
      simp [hparse, hbackslash]

theorem parse_escape_mixed :
    let source := "s3:\\bucket:"
    let target := "\\"
    source ≠ "" ∧ target ≠ "" ∧ source.toList.getLast? ≠ some '\\' ∧
      escape source ++ ":" ++ escape target = "s3\\:\\\\bucket\\::\\\\" ∧
      parse (escape source ++ ":" ++ escape target) = ⟨source, some target⟩ ∧
      parse (escape target ++ ":" ++ escape source) = ⟨target ++ ":" ++ source, none⟩ := by
  intro source target
  have hpair := parse_escape.2 source target (by decide) (by decide)
  have hpair' := parse_escape.2 target source (by decide) (by decide)
  exact ⟨by decide, by decide, by decide, by decide, hpair.1.2 (by decide), hpair'.2 (by decide)⟩

/-- A reference of a colon and a name. The colon does not separate, but only as nothing comes
before it. -/
def LacksSource (reference : String) : Prop :=
  ∃ name, name ≠ "" ∧ reference = ":" ++ name ∧ (parse reference).target = none

theorem target_parse_eq_none_iff (text : String) :
    (parse text).target = none ↔ cut? text.toList = none := by
  cases h : cut? text.toList with
  | none => simp [parse_of_cut?_none h]
  | some halves => simp [parse_of_cut?_some h]

/-- Taken by itself such a reference is a source that starts with the colon. -/
theorem parse_of_lacksSource {name : String} (h : (parse (":" ++ name)).target = none) :
    parse (":" ++ name) = ⟨":" ++ unescape name, none⟩ := by
  have hplain : unescapeChars (":" ++ name).toList = ':' :: unescapeChars name.toList := by
    simpa [String.toList_append] using unescapeChars_append (by simp : '\\' ∉ [':']) name.toList
  have htext : unescape (":" ++ name) = ":" ++ unescape name := by
    rw [← String.toList_inj, unescape, unescape, hplain]
    simp [String.toList_append]
  rw [parse_of_cut?_none ((target_parse_eq_none_iff _).1 h), htext]

section Under

variable {root : String} (hcolon : ':' ∉ root.toList) (hbackslash : '\\' ∉ root.toList)

include hbackslash in
theorem unescapeChars_under (s : List Char) :
    unescapeChars (root.toList ++ '/' :: s) = root.toList ++ '/' :: unescapeChars s := by
  have hlead : '\\' ∉ root.toList ++ ['/'] := by simp [hbackslash]
  simpa using unescapeChars_append hlead s

include hbackslash in
/-- Before a reference that lacks a source it becomes the source, so that the rest is the target. -/
theorem parse_under_of_lacksSource {name : String} (hname : name ≠ "")
    (h : (parse (":" ++ name)).target = none) :
    parse (root ++ "/" ++ (":" ++ name)) = ⟨root ++ "/", some (unescape name)⟩ := by
  have hcut : cut? (':' :: name.toList) = none := by
    simpa [String.toList_append] using (target_parse_eq_none_iff (":" ++ name)).1 h
  have hslash := cut?_colon hcut (c := '/') (by decide) (by simpa using hname)
  have hcut' := cut?_append_of_some hslash root.toList
  have htext : (root ++ "/" ++ (":" ++ name)).toList =
      root.toList ++ '/' :: ':' :: name.toList := by
    simp [String.toList_append]
  have hdirectory : String.ofList (root.toList ++ ['/']) = root ++ "/" := by
    rw [← String.toList_inj]
    simp [String.toList_append]
  have hplain := unescapeChars_under hbackslash []
  rw [← htext] at hcut'
  rw [parse_of_cut?_some hcut', hplain]
  exact congrArg (fun source => Reference.mk source (some (unescape name))) hdirectory

include hcolon hbackslash

/-- A directory before a reference becomes a part of its source and nothing else. -/
theorem parse_under {reference : String} (h : ¬LacksSource reference) :
    parse (root ++ "/" ++ reference) =
      ⟨root ++ "/" ++ (parse reference).source, (parse reference).target⟩ := by
  have htext : (root ++ "/" ++ reference).toList = root.toList ++ '/' :: reference.toList := by
    simp [String.toList_append]
  have hjoin (s : List Char) : String.ofList (root.toList ++ '/' :: s) =
      root ++ "/" ++ String.ofList s := by
    rw [← String.toList_inj]
    simp [String.toList_append]
  cases hcut : cut? reference.toList with
  | some halves =>
    obtain ⟨source, target⟩ := halves
    have hcut' := cut?_append_of_some (cut?_cons_of_some hcut '/') root.toList
    rw [← htext] at hcut'
    rw [parse_of_cut?_some hcut, parse_of_cut?_some hcut', unescapeChars_under hbackslash, hjoin]
  | none =>
    have hslash : cut? ('/' :: reference.toList) = none := by
      cases hreference : reference.toList with
      | nil => rfl
      | cons c name =>
        by_cases hc : c = ':'
        · -- Only a name after it could make a separator of this colon.
          have hname : name = [] := by
            by_contra hne
            refine h ⟨String.ofList name, by simpa using hne, ?_, ?_⟩
            · rw [← String.toList_inj, hreference, hc]
              simp [String.toList_append]
            · exact (target_parse_eq_none_iff reference).2 hcut
          rw [hc, hname]
          rfl
        · rw [hreference] at hcut
          exact cut?_cons_of_none hcut (.inr (by simpa using hc))
    have hcut' := cut?_append_of_none hslash (by simp) hcolon
    rw [← htext] at hcut'
    rw [parse_of_cut?_none hcut, parse_of_cut?_none hcut', unescape, htext,
      unescapeChars_under hbackslash, hjoin, unescape]

/-- The meaning of a reference survives exactly if it does not lack a source. -/
theorem parse_under_iff (reference : String) :
    parse (root ++ "/" ++ reference) =
        ⟨root ++ "/" ++ (parse reference).source, (parse reference).target⟩ ↔
      ¬LacksSource reference := by
  refine ⟨fun h => ?_, parse_under hcolon hbackslash⟩
  rintro ⟨name, hname, rfl, htarget⟩
  rw [parse_under_of_lacksSource hbackslash hname htarget, htarget] at h
  exact Option.some_ne_none _ (congrArg Reference.target h)

end Under

end WorkflowPod.Path.Reference
