import Mathlib.Data.String.Basic
import WorkflowPod.Proofs.Yaml.Flow

/-!
Scalars of every style are read back to the end of their last line, and keys to their colon. A
literal block ends where a line begins left of it, so this needs to know what comes after it.
-/
namespace WorkflowPod.Yaml

open Text

/-- What may come after the last line of something in column `width`: nothing, or a line that
begins in that column or left of it. -/
def Outdented (width : Nat) (s : List Char) : Prop :=
  s = [] ∨ indentation s ≤ width ∧ (unindented s).head?.any (!isBlank ·) = true

theorem Outdented.mono {width width' : Nat} {s : List Char} (h : Outdented width s)
    (hle : width ≤ width') : Outdented width' s :=
  h.imp_right fun ⟨hwidth, hhead⟩ => ⟨hwidth.trans hle, hhead⟩

theorem margin_append_unindented (s : List Char) : margin (indentation s) ++ unindented s = s := by
  have hmargin : s.takeWhile (· == ' ') = margin (indentation s) := by
    refine List.eq_replicate_of_mem fun c hc => ?_
    simpa using List.mem_takeWhile_imp hc
  rw [← hmargin, unindented, List.takeWhile_append_dropWhile]

theorem splitBlock_margin (column left width : Nat) (s : List Char) :
    splitBlock column (left + width) (margin width ++ s) = splitBlock column left s := by
  induction width with
  | zero => rfl
  | succ width ih =>
    rw [margin, List.replicate_succ, List.cons_append, splitBlock, ← Nat.add_assoc]
    simpa [isBreak, margin] using ih

theorem splitBlock_of_outdented {width column : Nat} {s : List Char} (h : Outdented width s)
    (hlt : width < column) : splitBlock column column s = ([], s) := by
  obtain rfl | ⟨hle, hhead⟩ := h
  · rfl
  · obtain ⟨c, rest, hs⟩ : ∃ c rest, unindented s = c :: rest := by
      cases h : unindented s with
      | nil => simp [h] at hhead
      | cons c rest => exact ⟨c, rest, rfl⟩
    have hblank : isBlank c = false := by simpa [hs] using hhead
    have hc : c ≠ ' ' ∧ isBreak c = false := by
      simp only [isBlank, Bool.or_eq_false_iff, beq_eq_false_iff_ne] at hblank
      exact ⟨hblank.1.1.1, hblank.2⟩
    obtain ⟨left, rfl⟩ : ∃ left, column = left + 1 + indentation s :=
      ⟨column - indentation s - 1, by omega⟩
    have hmargin := margin_append_unindented s
    rw [hs] at hmargin
    have hskip := splitBlock_margin (left + 1 + indentation s) (left + 1) (indentation s)
      (c :: rest)
    rw [hmargin] at hskip
    rw [hskip, splitBlock]
    simpa [hc] using hmargin

/-- The lines of a block are its text without their indentation. After them the blanks of the next
line are still to come if the last one has ended. -/
theorem splitBlock_body {width : Nat} {s tail text rest : List Char} (afterBreak : Bool)
    (h : splitBlock width (if s.getLast?.elim afterBreak isBreak then width else 0) tail =
      (text, rest)) :
    splitBlock width (if afterBreak then width else 0) (literalBody width afterBreak s ++ tail) =
      (s ++ text, rest) := by
  induction s generalizing afterBreak with
  | nil => exact h
  | cons c s ih =>
    have hlast : (c :: s).getLast?.elim afterBreak isBreak =
        s.getLast?.elim (isBreak c) isBreak := by
      rw [List.getLast?_cons]
      cases s.getLast? <;> rfl
    rw [hlast] at h
    have hrest := ih (isBreak c) h
    rw [literalBody]
    by_cases hbreak : isBreak c = true
    · rw [hbreak, if_pos rfl] at hrest
      rw [if_pos hbreak, List.cons_append, splitBlock, if_pos hbreak, hrest]
      rfl
    · rw [Bool.eq_false_of_not_eq_true hbreak, if_neg (by simp)] at hrest
      have hskip : ∀ t, splitBlock width (if afterBreak then width else 0)
          ((if afterBreak then margin width else []) ++ t) = splitBlock width 0 t := by
        intro t
        cases afterBreak with
        | true => simpa using splitBlock_margin width 0 width t
        | false => rfl
      rw [if_neg hbreak, List.append_assoc, hskip, List.cons_append, splitBlock, if_neg hbreak,
        if_pos rfl, hrest]
      rfl

/-- How a chomping is written. -/
def Chomping.sign : Chomping → List Char
  | strip => ['-']
  | clip => []
  | keep => ['+']

/-- The chomping a text needs. -/
def chompingFor (s : List Char) : Chomping :=
  match s.reverse with
  | [] => .strip
  | [last] => if isBreak last then .keep else .strip
  | last :: previous :: _ =>
    if !isBreak last then .strip else if isBreak previous then .keep else .clip

theorem literalHeader_eq (s : List Char) :
    literalHeader s =
      '|' :: ((if s.head?.any fun c => c == ' ' || isBreak c then ['2'] else []) ++
        (chompingFor s).sign) := by
  unfold literalHeader chompingFor
  dsimp only
  rcases s.reverse with _ | ⟨last, _ | ⟨previous, rest⟩⟩ <;> dsimp only <;> split_ifs <;> rfl

/-- The lines of a block, chomped as its text needs, are its text. -/
theorem apply_chompingFor {s : List Char} (hne : s ≠ []) :
    (chompingFor s).apply (s ++ if s.getLast?.any isBreak then [] else ['\n']) = s := by
  obtain ⟨r, rfl⟩ : ∃ r, s = r.reverse := ⟨s.reverse, s.reverse_reverse.symm⟩
  have hfeed : isBreak '\n' = true := rfl
  unfold chompingFor
  rw [List.reverse_reverse]
  match r with
  | [] => contradiction
  | [last] =>
    by_cases hlast : isBreak last <;> simp [hlast, hfeed, Chomping.apply, dropTailWhile]
  | last :: previous :: r =>
    by_cases hlast : isBreak last
    · by_cases hprevious : isBreak previous
      · simp [hlast, hprevious, Chomping.apply]
      · simp [hlast, hprevious, Chomping.apply, dropTailWhile, List.take_of_length_le]
    · simp [hlast, hfeed, Chomping.apply, dropTailWhile]

/-- The hint a text needs: its first line does not show its indentation if that begins with a blank
or is empty. -/
def hintFor (s : List Char) : Option Nat :=
  if s.head?.any fun c => c == ' ' || isBreak c then some 2 else none

theorem splitHint_header (s : List Char) (chomping : Chomping) (rest : List Char) :
    splitHint ((if s.head?.any fun c => c == ' ' || isBreak c then ['2'] else []) ++
      (chomping.sign ++ '\n' :: rest)) = (hintFor s, chomping.sign ++ '\n' :: rest) := by
  unfold hintFor
  split_ifs
  · rfl
  · cases chomping <;> rfl

theorem blockColumn?_body (width : Nat) {s : List Char} (hne : s ≠ []) (tail : List Char) :
    blockColumn? width (hintFor s) (literalBody (width + 2) true s ++ tail) = some (width + 2) := by
  unfold hintFor
  split_ifs with hhint
  · rfl
  · obtain ⟨c, rest, rfl⟩ := List.exists_cons_of_ne_nil hne
    have hc : c ≠ ' ' ∧ isBreak c = false := by simpa using hhint
    rw [literalBody, if_neg (by simp [hc.2]), if_pos rfl, List.append_assoc, blockColumn?,
      indentation_margin _ (by simp [hc.1]), unindented_margin _ (by simp [hc.1])]
    simp [hc.2]

theorem splitChomping_sign (chomping : Chomping) (rest : List Char) :
    splitChomping (chomping.sign ++ '\n' :: rest) = (chomping, '\n' :: rest) := by
  cases chomping <;> rfl

theorem scalarEnd_eq_of_literal {s : List Char} (h : style s = .literal) :
    scalarEnd s = if s.getLast?.any isBreak then [] else ['\n'] := by
  simp [scalarEnd, h]

/-- A literal block is read back, up to the first line left of it. -/
theorem readLiteral?_scalar {width : Nat} {s rest : List Char} (hstyle : style s = .literal)
    (hrest : Outdented (width + 1) rest) :
    readLiteral? width ((literalHeader s).tail ++
      '\n' :: (literalBody (width + 2) true s ++ (scalarEnd s ++ rest))) = some (s, rest) := by
  obtain ⟨hfeed, hliteral⟩ := style_eq_literal hstyle
  have hne : s ≠ [] := List.ne_nil_of_mem hfeed
  have hprint : ∀ c ∈ s, isPrintable c = true := by
    simp only [allowsLiteral, Bool.and_eq_true, Bool.not_eq_true'] at hliteral
    exact (needsEscapes_eq_false hliteral.1).1
  have hafter := splitBlock_of_outdented hrest (Nat.lt_succ_self _)
  have hend : splitBlock (width + 2)
      (if s.getLast?.elim true isBreak then width + 2 else 0) (scalarEnd s ++ rest) =
        (if s.getLast?.any isBreak then [] else ['\n'], rest) := by
    obtain ⟨last, hlast⟩ := Option.ne_none_iff_exists'.1 (mt List.getLast?_eq_none_iff.1 hne)
    rw [scalarEnd_eq_of_literal hstyle, hlast]
    by_cases hbreak : isBreak last = true
    · simpa [hbreak] using hafter
    · have hfeed : isBreak '\n' = true := rfl
      simp [hbreak, splitBlock, hfeed, hafter]
  have hbody := splitBlock_body true hend
  rw [if_pos rfl] at hbody
  have hkept : (s ++ if s.getLast?.any isBreak then [] else ['\n']).all isPrintable = true := by
    split_ifs <;> simpa [isPrintable] using hprint
  rw [literalHeader_eq, List.tail_cons, List.append_assoc, readLiteral?, splitHint_header]
  simp only [Option.bind_eq_bind]
  rw [splitChomping_sign]
  simp only [endLine?_newline, Option.bind_some]
  rw [blockColumn?_body width hne, Option.bind_some, hbody, if_pos hkept, apply_chompingFor hne]
  rfl

theorem endsFlow_scalarEnd {s : List Char} (h : style s ≠ .literal) (rest : List Char) :
    EndsFlow (scalarEnd s ++ rest) := by
  rw [scalarEnd, if_neg (by simp [h])]
  exact .newline rest

theorem readScalar?_of_readFlow? {width : Nat} {s rest after : List Char} {scalar : Scalar}
    (h : readFlow? s = some (scalar, rest)) (hend : endLine? rest = some after) :
    readScalar? width s = some (scalar, after) := by
  unfold readScalar?
  split
  · -- Nothing that begins with a bar is read as part of a line.
    simp [readFlow?, readPlain?, startsIndicator] at h
  · simp [h, hend]

/-- Any text is read back from its scalar, if no line to the right of its place comes after it. -/
theorem readScalar?_scalar (width : Nat) (s : List Char) {rest : List Char}
    (hrest : Outdented (width + 1) rest) :
    readScalar? width (scalar (width + 2) s ++ (scalarEnd s ++ rest)) =
      some (⟨s, style s = .plain⟩, rest) := by
  by_cases hstyle : style s = .literal
  · obtain ⟨header, hheader⟩ : ∃ header, literalHeader s = '|' :: header :=
      ⟨_, literalHeader_eq s⟩
    have hread := readLiteral?_scalar hstyle hrest
    rw [hheader, List.tail_cons] at hread
    simp [scalar, hstyle, hheader, readScalar?, hread]
  · have hread := readFlow?_scalar (by omega : 0 < width + 2) hstyle
      (endsFlow_scalarEnd hstyle rest)
    have hend : endLine? (scalarEnd s ++ rest) = some rest := by
      rw [scalarEnd, if_neg (by simp [hstyle])]
      rfl
    exact readScalar?_of_readFlow? hread hend

theorem isBreak_hexDigits {width n : Nat} : ∀ d ∈ hexDigits width n, isBreak d = false := by
  induction width generalizing n with
  | zero => simp [hexDigits]
  | succ width ih =>
    intro d hd
    rcases List.mem_append.1 hd with hd | hd
    · exact ih d hd
    · have hdigits : ∀ m < 16, isBreak (hexDigit m) = false := by decide
      rw [List.mem_singleton.1 hd]
      exact hdigits _ (Nat.mod_lt _ (by decide))

theorem length_hexDigits (width n : Nat) : (hexDigits width n).length = width := by
  induction width generalizing n with
  | zero => rfl
  | succ width ih => simp [hexDigits, ih]

theorem isBreak_escaped (c : Char) : ∀ d ∈ escaped c, isBreak d = false := by
  unfold escaped
  split
  case h_16 =>
    have hletters : ∀ d ∈ ['\\', 'x', 'u', 'U'], isBreak d = false := by simp [isBreak]
    dsimp only
    split_ifs <;> simp only [List.forall_mem_cons] <;>
      exact ⟨hletters _ (by simp), hletters _ (by simp), isBreak_hexDigits⟩
  all_goals simp [isBreak]

theorem length_escaped {c : Char} (h : c.toNat < 0x10000) : (escaped c).length ≤ 6 := by
  unfold escaped
  split
  case h_16 =>
    dsimp only
    split_ifs <;> simp [length_hexDigits]
  all_goals decide

theorem isBreak_doubleQuotedBody (s : List Char) :
    ∀ d ∈ doubleQuotedBody s, isBreak d = false := by
  intro d hd
  obtain ⟨c, -, hd⟩ := List.mem_flatMap.1 hd
  split_ifs at hd with hc
  · exact isBreak_escaped c d hd
  · simp only [Bool.or_eq_true, not_or, Bool.not_eq_true] at hc
    rw [List.mem_singleton.1 hd]
    exact hc.1.1.2

/-- Characters outside of the first plane are printable, so none of them is escaped. -/
theorem toNat_lt_of_escaped {c : Char}
    (h : (!isPrintable c || isBreak c || c == '"' || c == '\\') = true) : c.toNat < 0x10000 := by
  by_contra hlarge
  have hprint : isPrintable c = true := by simp [isPrintable, not_lt.1 hlarge]
  simp only [hprint, isBreak, Bool.or_eq_true, beq_iff_eq, Bool.not_true, Bool.false_eq_true,
    false_or] at h
  rcases h with ((((((rfl | rfl) | rfl) | rfl) | rfl) | rfl) | rfl) <;> exact hlarge (by decide)

theorem length_doubleQuotedBody (s : List Char) :
    (doubleQuotedBody s).length ≤ 6 * s.length := by
  induction s with
  | nil => simp [doubleQuotedBody]
  | cons c s ih =>
    rw [doubleQuotedBody] at ih ⊢
    rw [List.flatMap_cons, List.length_append, List.length_cons]
    split
    · rename_i hc
      have := length_escaped (toNat_lt_of_escaped hc)
      omega
    · simp only [List.length_singleton]
      omega

theorem singleQuotedBody_of_no_break (width : Nat) {s : List Char}
    (h : ∀ c ∈ s, isBreak c = false) :
    (∀ d ∈ singleQuotedBody width false s, isBreak d = false) ∧
      (singleQuotedBody width false s).length ≤ 2 * s.length := by
  induction s with
  | nil => simp [singleQuotedBody]
  | cons c s ih =>
    have hc := h c List.mem_cons_self
    obtain ⟨hbreak, hlength⟩ := ih fun d hd => h d (List.mem_cons_of_mem _ hd)
    rw [singleQuotedBody, if_neg (by simp [hc]), if_neg (by simp), List.nil_append,
      List.length_append, List.length_cons]
    refine ⟨fun d hd => ?_, ?_⟩
    · rcases List.mem_append.1 hd with hd | hd
      · split_ifs at hd <;> simp_all
      · exact hbreak d hd
    · split_ifs <;> simp only [List.length_cons, List.length_nil] <;> omega

theorem style_of_no_break {s : List Char} (h : ∀ c ∈ s, isBreak c = false) :
    style s ≠ .literal := by
  intro hstyle
  exact absurd (h _ (style_eq_literal hstyle).1) (by decide)

theorem scalar_of_no_break (width : Nat) {s : List Char} (h : ∀ c ∈ s, isBreak c = false) :
    (∀ d ∈ scalar width s, isBreak d = false) ∧
      (scalar width s).length ≤ 6 * s.length + 2 := by
  cases hstyle : style s with
  | plain =>
    simp only [scalar, hstyle]
    exact ⟨h, by omega⟩
  | singleQuoted =>
    obtain ⟨hbreak, hlength⟩ := singleQuotedBody_of_no_break width h
    have hquote : isBreak '\x27' = false := rfl
    simp only [scalar, hstyle, List.forall_mem_cons, List.forall_mem_append, List.length_cons,
      List.length_append]
    exact ⟨⟨hquote, hbreak, hquote, by simp⟩, by simp only [List.length_nil]; omega⟩
  | doubleQuoted =>
    have hbreak := isBreak_doubleQuotedBody s
    have hlength := length_doubleQuotedBody s
    have hquote : isBreak '"' = false := rfl
    simp only [scalar, hstyle, List.forall_mem_cons, List.forall_mem_append, List.length_cons,
      List.length_append]
    exact ⟨⟨hquote, hbreak, hquote, by simp⟩, by simp only [List.length_nil]; omega⟩
  | literal => exact absurd hstyle (style_of_no_break h)

theorem length_le_utf8ByteSize (s : List Char) : s.length ≤ (String.ofList s).utf8ByteSize := by
  rw [String.utf8ByteSize_ofList]
  induction s with
  | nil => simp
  | cons c s ih =>
    have := c.utf8Size_pos
    rw [String.utf8Len_cons, List.length_cons]
    omega

/-- A simple key is read back up to its colon. -/
theorem readKey?_scalar {width : Nat} (hwidth : 0 < width) {s rest : List Char}
    (hkey : isSimpleKey s = true) (hrest : endsWord rest = true) :
    readKey? (scalar width s ++ ':' :: rest) = some (s, rest) := by
  simp only [isSimpleKey, Bool.and_eq_true, Bool.not_eq_true', List.any_eq_false,
    decide_eq_true_eq] at hkey
  obtain ⟨hbreak, hsize⟩ := hkey
  have hbreak : ∀ c ∈ s, isBreak c = false := by simpa using hbreak
  obtain ⟨hline, hlength⟩ := scalar_of_no_break width hbreak
  have hread := readFlow?_scalar hwidth (style_of_no_break hbreak) (.colon hrest)
  have hshort := length_le_utf8ByteSize s
  have hlead : (scalar width s ++ ':' :: rest).take
      ((scalar width s ++ ':' :: rest).length - rest.length) = scalar width s ++ [':'] := by
    rw [List.append_cons, List.length_append, Nat.add_sub_cancel, List.take_left]
  have hany : (scalar width s ++ [':']).any isBreak = false := by
    have hcolon : isBreak ':' = false := rfl
    simpa [hcolon] using hline
  have hcount : (scalar width s ++ [':']).length ≤ 1024 := by
    rw [List.length_append, List.length_singleton]
    omega
  have hunindented : unindented (':' :: rest) = ':' :: rest := rfl
  rw [readKey?, hread]
  simp only [Option.bind_eq_bind, Option.bind_some]
  rw [hunindented]
  simp only [hlead]
  rw [hrest, hany, decide_eq_true hcount]
  rfl

end WorkflowPod.Yaml
