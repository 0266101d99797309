import WorkflowPod.Proofs.Text.Digits
import WorkflowPod.Proofs.Text.Split
import WorkflowPod.Proofs.Yaml.Reader

/-!
Scalars that may share a line with something else, plain or quoted, are read back as they were
written. For each style there is a lemma on what stands between its marks, by induction on the text.
-/
namespace WorkflowPod.Yaml

open Text

theorem unindented_margin (width : Nat) {s : List Char} (h : s.head? ≠ some ' ') :
    unindented (margin width ++ s) = s := by
  induction width with
  | zero =>
    cases s with
    | nil => rfl
    | cons c rest => simp_all [unindented, margin]
  | succ width ih => simpa [unindented, margin, List.replicate_succ] using ih

theorem indentation_margin (width : Nat) {s : List Char} (h : s.head? ≠ some ' ') :
    indentation (margin width ++ s) = width := by
  induction width with
  | zero =>
    cases s with
    | nil => rfl
    | cons c rest => simp_all [indentation, margin]
  | succ width ih => simpa [indentation, margin, List.replicate_succ] using ih

@[simp] theorem endLine?_newline (rest : List Char) : endLine? ('\n' :: rest) = some rest := rfl

theorem endsWord_append {s : List Char} (h : s ≠ []) (tail : List Char) :
    endsWord (s ++ tail) = endsWord s := by
  cases s with
  | nil => contradiction
  | cons c rest => rfl

theorem needsEscapes_eq_false {s : List Char} (h : needsEscapes s = false) :
    (∀ c ∈ s, isPrintable c = true) ∧ hasNeighbours (· == ' ') isBreak s = false := by
  simpa [needsEscapes] using h

theorem hasIndicator_cons (c : Char) (rest : List Char) :
    hasIndicator (c :: rest) =
      (startsMark ':' rest || (rest.head? == some '#' && isBlank c) || hasIndicator rest) := by
  cases rest with
  | nil => rfl
  | cons d after =>
    by_cases hcolon : d = ':'
    · subst hcolon
      simp [hasIndicator, startsMark]
    · by_cases hsign : d = '#'
      · subst hsign
        simp [hasIndicator, startsMark]
      · simp [hasIndicator, startsMark, hcolon, hsign]

theorem startsIndicator_append {s : List Char} (hne : s ≠ []) (h : startsIndicator s = false)
    (tail : List Char) : startsIndicator (s ++ tail) = false := by
  obtain ⟨c, rest, rfl⟩ := List.exists_cons_of_ne_nil hne
  cases rest with
  | nil =>
    simp only [startsIndicator, endsWord, List.head?_nil, Option.all_none, Bool.and_true,
      Bool.or_eq_false_iff] at h
    simp only [List.cons_append, startsIndicator, h.1, h.2.1.1, h.2.1.2, h.2.2, Bool.or_self,
      Bool.false_and]
  | cons d rest => exact h

theorem startsMark_colon_of_startsIndicator {s : List Char} (h : startsIndicator s = false) :
    startsMark ':' s = false := by
  cases s with
  | nil => rfl
  | cons c rest =>
    simp only [startsIndicator, Bool.or_eq_false_iff, Bool.and_eq_false_iff] at h
    simp only [startsMark, Bool.and_eq_false_iff]
    exact h.2.imp (·.1.2) id

/-- A text with no line end and no indicator belongs to a plain scalar up to where one ends. -/
theorem splitPlain_append {s tail : List Char} (hbreak : ∀ c ∈ s, isBreak c = false)
    (hcolon : startsMark ':' s = false) (hind : hasIndicator s = false)
    (hlast : s.getLast? ≠ some ' ') (htail : splitPlain tail = ([], tail)) :
    splitPlain (s ++ tail) = (s, tail) := by
  induction s with
  | nil => exact htail
  | cons c rest ih =>
    rw [hasIndicator_cons] at hind
    simp only [Bool.or_eq_false_iff] at hind
    obtain ⟨⟨hcolon', hsign⟩, hind'⟩ := hind
    have hgoes : (isBreak c || (c == ':' && endsWord (rest ++ tail)) ||
        (c == ' ' && (rest ++ tail).head? == some '#')) = false := by
      have hc := hbreak c List.mem_cons_self
      cases rest with
      | nil => simp_all [startsMark, endsWord]
      | cons d after =>
        have hword : endsWord (d :: after ++ tail) = endsWord (d :: after) :=
          endsWord_append (by simp) tail
        have hsign' : c = ' ' → d ≠ '#' := by
          rintro rfl rfl
          simp [isBlank] at hsign
        rw [hword]
        simp_all [startsMark]
    have hrest := ih (fun d hd => hbreak d (List.mem_cons_of_mem _ hd)) hcolon' hind' (by
      cases rest with
      | nil => simp
      | cons d after => simpa [List.getLast?_cons_cons] using hlast)
    rw [List.cons_append, splitPlain, hgoes, hrest]
    rfl

theorem readPlain?_append {s tail : List Char} (hne : s ≠ []) (h : allowsPlain s = true)
    (htail : splitPlain tail = ([], tail)) : readPlain? (s ++ tail) = some (⟨s, true⟩, tail) := by
  simp only [allowsPlain, Bool.and_eq_true, Bool.not_eq_true', bne_iff_ne] at h
  obtain ⟨⟨⟨⟨⟨⟨hescapes, hbreak⟩, -⟩, hlast⟩, -⟩, hstarts⟩, hind⟩ := h
  have hprintable := (needsEscapes_eq_false hescapes).1
  have hsplit := splitPlain_append (by simpa using hbreak)
    (startsMark_colon_of_startsIndicator hstarts) hind hlast htail
  have htrim : dropTailWhile (· == ' ') s = s :=
    dropTailWhile_eq_self fun c hc => by
      rw [beq_eq_false_iff_ne]
      rintro rfl
      exact hlast hc
  unfold readPlain?
  rw [hsplit, startsIndicator_append hne hstarts]
  simpa [hne, htrim] using hprintable

theorem readFlow?_plain {s tail : List Char} (hne : s ≠ []) (h : allowsPlain s = true)
    (htail : splitPlain tail = ([], tail)) : readFlow? (s ++ tail) = some (⟨s, true⟩, tail) := by
  have hstarts : startsIndicator s = false := by
    simp only [allowsPlain, Bool.and_eq_true, Bool.not_eq_true'] at h
    exact h.1.2
  rw [← readPlain?_append hne h htail]
  obtain ⟨c, rest, rfl⟩ := List.exists_cons_of_ne_nil hne
  have hc : c ≠ '\x27' ∧ c ≠ '"' := by
    constructor <;> (rintro rfl; simp [startsIndicator] at hstarts)
  rw [List.cons_append, readFlow?]
  · simp [hc.1]
  · simp [hc.2]

theorem hasNeighbours_cons (p q : Char → Bool) (c : Char) (rest : List Char) :
    hasNeighbours p q (c :: rest) = (p c && rest.head?.any q || hasNeighbours p q rest) := by
  cases rest with
  | nil => simp [hasNeighbours]
  | cons d after => simp [hasNeighbours]

theorem startsDocument_eq_false {s : List Char} (h : s.head? ≠ some '-')
    (h' : s.head? ≠ some '.') : startsDocument s = false := by
  cases s with
  | nil => rfl
  | cons c rest =>
    have hc : '-' ≠ c ∧ '.' ≠ c := by
      constructor <;> (rintro rfl; simp at h h')
    simp [startsDocument, startsWith, afterLead?, hc]

section

variable {blanks breaks rest : List Char} {c : Char}

theorem readSingleQuoted?_close (h : rest.head? ≠ some '\x27') :
    readSingleQuoted? blanks breaks ('\x27' :: rest) = some (folded blanks breaks, rest) := by
  rw [readSingleQuoted?]
  rintro after rfl
  simp at h

theorem readSingleQuoted?_blank :
    readSingleQuoted? blanks breaks (' ' :: rest) =
      readSingleQuoted? (if breaks.isEmpty then blanks ++ [' '] else []) breaks rest := by
  rw [readSingleQuoted?] <;> simp [isPrintable, isBreak]

theorem readSingleQuoted?_break (hc : isBreak c = true) (hprint : isPrintable c = true)
    (h : startsDocument rest = false) :
    readSingleQuoted? blanks breaks (c :: rest) =
      readSingleQuoted? [] (breaks ++ [c]) rest := by
  have hne : c ≠ '\x27' := by rintro rfl; simp [isBreak] at hc
  rw [readSingleQuoted?] <;> simp [hc, hprint, h, hne]

/-- A character that is neither a blank nor a line end ends what is folded. -/
theorem readSingleQuoted?_char (hblank : c ≠ ' ') (hbreak : isBreak c = false)
    (hprint : isPrintable c = true) :
    readSingleQuoted? blanks breaks ((if c == '\x27' then ['\x27', '\x27'] else [c]) ++ rest) =
      (readSingleQuoted? [] [] rest).map fun (text, rest) =>
        (folded blanks breaks ++ c :: text, rest) := by
  by_cases hc : c = '\x27'
  · subst hc
    simp [readSingleQuoted?, Option.map_eq_bind]
  · rw [if_neg (by simpa using hc), List.singleton_append, readSingleQuoted?] <;>
      simp [hc, hblank, hbreak, hprint, Option.map_eq_bind]

/-- Blanks after a line end do not belong to the text. -/
theorem readSingleQuoted?_margin (width : Nat) (h : breaks ≠ []) :
    readSingleQuoted? [] breaks (margin width ++ rest) = readSingleQuoted? [] breaks rest := by
  induction width with
  | zero => rfl
  | succ width ih =>
    have hempty : breaks.isEmpty = false := by simpa using h
    rw [margin, List.replicate_succ, List.cons_append, readSingleQuoted?_blank, hempty]
    exact ih

end

theorem startsDocument_singleQuotedBody {width : Nat} (hwidth : 0 < width) (s tail : List Char) :
    startsDocument (singleQuotedBody width true s ++ '\x27' :: tail) = false := by
  obtain ⟨width, rfl⟩ := Nat.exists_eq_succ_of_ne_zero hwidth.ne'
  have hmargin : margin (width + 1) = ' ' :: margin width := rfl
  cases s with
  | nil => apply startsDocument_eq_false <;> simp [singleQuotedBody, hmargin]
  | cons c rest =>
    rw [singleQuotedBody]
    split
    · rename_i hc
      apply startsDocument_eq_false <;> (rintro h; cases h; simp [isBreak] at hc)
    · apply startsDocument_eq_false <;> simp [hmargin]

theorem folded_of_no_feed {breaks : List Char} (h : '\n' ∉ breaks) (hne : breaks ≠ []) :
    folded [] breaks = breaks := by
  unfold folded
  split <;> simp_all

/-- A text in single quotes is read back, after blanks that no line end follows and after line ends
that no blank follows. -/
theorem readSingleQuoted?_body {width : Nat} (hwidth : 0 < width) {rest : List Char}
    (hrest : rest.head? ≠ some '\x27') {s : List Char} (hfeed : '\n' ∉ s)
    (hprint : ∀ c ∈ s, isPrintable c = true) (hbefore : hasNeighbours (· == ' ') isBreak s = false)
    (hafter : hasNeighbours isBreak (· == ' ') s = false) :
    (∀ blanks : List Char, (blanks ≠ [] → s.head?.any isBreak = false) →
      readSingleQuoted? blanks [] (singleQuotedBody width false s ++ '\x27' :: rest) =
        some (blanks ++ s, rest)) ∧
    ∀ breaks : List Char, breaks ≠ [] → '\n' ∉ breaks → s.head? ≠ some ' ' →
      readSingleQuoted? [] breaks (singleQuotedBody width true s ++ '\x27' :: rest) =
        some (breaks ++ s, rest) := by
  induction s with
  | nil =>
    refine ⟨fun blanks _ => ?_, fun breaks hne hfeeds _ => ?_⟩
    · exact (readSingleQuoted?_close hrest).trans (by simp [folded])
    · rw [singleQuotedBody, if_pos rfl, readSingleQuoted?_margin width hne,
        readSingleQuoted?_close hrest, folded_of_no_feed hfeeds hne, List.append_nil]
  | cons c s ih =>
    rw [hasNeighbours_cons, Bool.or_eq_false_iff] at hbefore hafter
    obtain ⟨hfalse, htrue⟩ := ih (fun h => hfeed (List.mem_cons_of_mem _ h))
      (fun d hd => hprint d (List.mem_cons_of_mem _ hd)) hbefore.2 hafter.2
    have hc := hprint c List.mem_cons_self
    by_cases hbreak : isBreak c = true
    · have hdocument := startsDocument_singleQuotedBody hwidth s rest
      have hfeed' : '\n' ≠ c := fun h => hfeed (h ▸ List.mem_cons_self)
      have hblank : s.head? ≠ some ' ' := fun h => by simp [hbreak, h] at hafter
      refine ⟨fun blanks hblanks => ?_, fun breaks hne hfeeds _ => ?_⟩
      · have hnil : blanks = [] := by
          by_contra hne
          simp [hbreak] at hblanks
          exact hne hblanks
        rw [hnil, singleQuotedBody, if_pos hbreak, List.cons_append,
          readSingleQuoted?_break hbreak hc hdocument]
        exact htrue [c] (by simp) (by simpa using hfeed') hblank
      · rw [singleQuotedBody, if_pos hbreak, List.cons_append,
          readSingleQuoted?_break hbreak hc hdocument,
          htrue (breaks ++ [c]) (by simp) (by simp [hfeeds, hfeed']) hblank, List.append_assoc,
          List.singleton_append]
    · rw [Bool.not_eq_true] at hbreak
      have hword := hfalse [] (by simp)
      refine ⟨fun blanks hblanks => ?_, fun breaks hne hfeeds hblank => ?_⟩
      · rw [singleQuotedBody, if_neg (by simp [hbreak])]
        by_cases hblank : c = ' '
        · subst hblank
          rw [if_neg (by decide), if_neg (by decide), List.nil_append, List.singleton_append,
            List.cons_append, readSingleQuoted?_blank]
          have hhead : s.head?.any isBreak = false := by simpa using hbefore.1
          simpa using hfalse (blanks ++ [' ']) fun _ => hhead
        · rw [if_neg (by decide), List.nil_append, List.append_assoc,
            readSingleQuoted?_char hblank hbreak hc, hword]
          simp [folded]
      · rw [singleQuotedBody, if_neg (by simp [hbreak]), if_pos rfl, List.append_assoc,
          List.append_assoc, readSingleQuoted?_margin width hne,
          readSingleQuoted?_char (by simpa using hblank) hbreak hc, hword]
        simp [folded_of_no_feed hfeeds hne]

theorem readCode?_hexDigits (width : Nat) (hwidth : 0 < width) {c : Char}
    (hc : c.toNat < 16 ^ width) : readCode? (hexDigits width c.toNat) = some c := by
  have hvalid : c.toNat.isValidChar := c.valid
  rw [readCode?, readNat?_hexDigits hwidth hc, Option.bind_some, if_pos hvalid, Char.ofNat_toNat]

theorem readDoubleQuoted?_escaped (c : Char) (rest : List Char) :
    readDoubleQuoted? (escaped c ++ rest) =
      (readDoubleQuoted? rest).map fun (text, rest) => (c :: text, rest) := by
  unfold escaped
  split
  case h_16 =>
    have hbound : c.toNat < 16 ^ 8 := by
      have hvalid := c.valid
      simp only [UInt32.isValidChar, Nat.isValidChar] at hvalid
      change c.val.toNat < 16 ^ 8
      omega
    -- The digits are written out, as the reader takes them one by one.
    have h2 := fun h => readCode?_hexDigits 2 (by decide) (c := c) h
    have h4 := fun h => readCode?_hexDigits 4 (by decide) (c := c) h
    have h8 := readCode?_hexDigits 8 (by decide) hbound
    simp only [hexDigits, List.nil_append, List.cons_append] at h2 h4 h8
    dsimp only
    split_ifs with hsmall hmiddle
    · simp [hexDigits, readDoubleQuoted?, h2 hsmall, Option.map_eq_bind]
    · simp [hexDigits, readDoubleQuoted?, h4 hmiddle, Option.map_eq_bind]
    · simp [hexDigits, readDoubleQuoted?, h8, Option.map_eq_bind]
  all_goals simp [readDoubleQuoted?, unescape?, Option.map_eq_bind]

theorem readDoubleQuoted?_body (s rest : List Char) :
    readDoubleQuoted? (doubleQuotedBody s ++ '"' :: rest) = some (s, rest) := by
  induction s with
  | nil => simp [doubleQuotedBody, readDoubleQuoted?]
  | cons c s ih =>
    rw [doubleQuotedBody] at ih ⊢
    rw [List.flatMap_cons, List.append_assoc]
    split
    · rw [readDoubleQuoted?_escaped, ih, Option.map_some]
    · rename_i hc
      simp only [Bool.or_eq_true, Bool.not_eq_true', beq_iff_eq, not_or, Bool.not_eq_true,
        Bool.not_eq_false] at hc
      obtain ⟨⟨⟨hprint, hbreak⟩, hquote⟩, hslash⟩ := hc
      rw [List.singleton_append, readDoubleQuoted?]
      · rw [ih]
        simp [hprint, hbreak]
      all_goals simp [hquote, hslash]

theorem style_eq_plain {s : List Char} (h : style s = .plain) :
    isMistakable s = false ∧ allowsPlain s = true := by
  unfold style at h
  split_ifs at h with _ _ hplain
  simpa using hplain

theorem style_eq_singleQuoted {s : List Char} (h : style s = .singleQuoted) :
    '\n' ∉ s ∧ allowsSingleQuotes s = true := by
  unfold style at h
  split_ifs at h with hfeed _ _ hquotes
  exact ⟨by simpa using hfeed, hquotes⟩

theorem style_eq_literal {s : List Char} (h : style s = .literal) :
    '\n' ∈ s ∧ allowsLiteral s = true := by
  unfold style at h
  split_ifs at h with hfeed hliteral
  exact ⟨by simpa using hfeed, hliteral⟩

theorem ne_nil_of_not_mistakable {s : List Char} (h : isMistakable s = false) : s ≠ [] := by
  rintro rfl
  simp [isMistakable, isNull] at h

/-- What ends a scalar that shares its line: a colon that stands alone, or the end of the line. -/
inductive EndsFlow : List Char → Prop where
  | colon {rest : List Char} (h : endsWord rest = true) : EndsFlow (':' :: rest)
  | newline (rest : List Char) : EndsFlow ('\n' :: rest)

theorem EndsFlow.splitPlain {tail : List Char} (h : EndsFlow tail) :
    splitPlain tail = ([], tail) := by
  cases h with
  | colon h => simp [Yaml.splitPlain, h]
  | newline rest => simp [Yaml.splitPlain, isBreak]

theorem EndsFlow.head?_ne_quote {tail : List Char} (h : EndsFlow tail) :
    tail.head? ≠ some '\x27' := by
  cases h <;> simp

/-- A scalar that is no block is read back, up to what ends it. -/
theorem readFlow?_scalar {width : Nat} (hwidth : 0 < width) {s tail : List Char}
    (hstyle : style s ≠ .literal) (htail : EndsFlow tail) :
    readFlow? (scalar width s ++ tail) = some (⟨s, style s = .plain⟩, tail) := by
  cases h : style s with
  | plain =>
    obtain ⟨hmistakable, hplain⟩ := style_eq_plain h
    have hread := readFlow?_plain (ne_nil_of_not_mistakable hmistakable) hplain htail.splitPlain
    simpa [scalar, h] using hread
  | singleQuoted =>
    obtain ⟨hfeed, hquotes⟩ := style_eq_singleQuoted h
    simp only [allowsSingleQuotes, Bool.and_eq_true, Bool.not_eq_true'] at hquotes
    obtain ⟨hprint, hbefore⟩ := needsEscapes_eq_false hquotes.1
    have hread := (readSingleQuoted?_body hwidth htail.head?_ne_quote hfeed hprint hbefore
      hquotes.2).1 [] (by simp)
    simp [scalar, h, readFlow?, hread]
  | doubleQuoted => simp [scalar, h, readFlow?, readDoubleQuoted?_body]
  | literal => contradiction

end WorkflowPod.Yaml
