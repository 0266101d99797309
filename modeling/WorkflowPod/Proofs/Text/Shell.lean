import Mathlib.Data.List.Forall2
import WorkflowPod.Text.Quoted

/-!
How a shell reads a script: character by character, into commands that run one after the other as
long as they succeed, and these into words. Main statement: words that are written with `shellQuote`
are read as they were, whatever is in them.
-/
namespace WorkflowPod.Shell

/-- A piece of a word: a character that stands for itself, or what a script puts out. -/
inductive Piece where
  | char (c : Char)
  | output (script : String)
  deriving DecidableEq, Repr

abbrev Word := List Piece

/-- A simple command: its name and its arguments. -/
abbrev Command := List Word

/-- The word that stands for a text, character by character. -/
def literal (text : String) : Word := text.toList.map .char

instance : Coe String Word := ⟨literal⟩

theorem literal_append (s t : String) : literal (s ++ t) = literal s ++ literal t := by
  simp [literal]

/-- What a word comes to, given what scripts put out. -/
def expand (output : String → String) (word : Word) : String :=
  String.ofList (word.flatMap fun
    | .char c => [c]
    | .output script => (output script).toList)

theorem expand_append (output : String → String) (v w : Word) :
    expand output (v ++ w) = expand output v ++ expand output w := by
  simp [expand]

theorem expand_literal (output : String → String) (text : String) :
    expand output (literal text) = text := by
  simp [expand, literal, List.flatMap_map]

/-- The scripts a word needs the output of. -/
def outputs (word : Word) : List String :=
  word.filterMap fun
    | .char _ => none
    | .output script => some script

theorem outputs_append (v w : Word) : outputs (v ++ w) = outputs v ++ outputs w :=
  List.filterMap_append

theorem outputs_literal (text : String) : outputs (literal text) = [] := by
  simp [outputs, literal]

/-- What the next character of a script is part of. -/
inductive Mode where
  /-- Nothing in particular. -/
  | plain
  /-- What comes after a backslash. -/
  | escaped
  /-- Text in single quotes. -/
  | quoted
  /-- A script in backquotes, read so far. -/
  | output (script : List Char)
  /-- What comes after a backslash in backquotes. -/
  | outputEscaped (script : List Char)
  /-- What comes after an ampersand. -/
  | ampersand
  deriving DecidableEq, Repr

/-- How far a script has been read. -/
structure Reader where
  /-- The commands that have ended. -/
  chain : List Command := []
  /-- The words that have ended, of the command after these. -/
  command : Command := []
  /-- The word after these, if it has begun. -/
  word : Option Word := none
  mode : Mode := .plain
  deriving DecidableEq, Repr

/-- Characters outside of quotes that mean something else to a shell, at least in some places. They
are not read: no script that relies on one of them has a reading. -/
def reserved : List Char :=
  ['\n', '|', ';', '<', '>', '(', ')', '$', '"', '*', '?', '[', ']', '^', '!', '#', '~', '\x7b',
    '\x7d']

namespace Reader

/-- The reader where the word goes on, or begins, with `pieces`. -/
def extend (r : Reader) (pieces : Word) : Reader :=
  { r with word := some (r.word.getD [] ++ pieces) }

def into (r : Reader) (mode : Mode) : Reader := { r with mode }

/-- The reader after the word, if there is one. -/
def endWord (r : Reader) : Reader :=
  { r with command := r.command ++ r.word.toList, word := none }

/-- The reader after the command, which has words. -/
def endCommand? (r : Reader) : Option Reader :=
  if r.command.isEmpty then none else some { chain := r.chain ++ [r.command] }

def step? (r : Reader) (c : Char) : Option Reader :=
  match r.mode with
  | .plain =>
    if c = ' ' ∨ c = '\t' then some r.endWord
    else if c = '&' then some (r.endWord.into .ampersand)
    else if c = '\\' then some (r.into .escaped)
    else if c = '\x27' then some ((r.extend []).into .quoted)
    else if c = '\x60' then some (r.into (.output []))
    else if c ∈ reserved then none
    else some (r.extend [.char c])
  | .escaped => some (if c = '\n' then r.into .plain else (r.extend [.char c]).into .plain)
  | .quoted => some (if c = '\x27' then r.into .plain else r.extend [.char c])
  | .output script =>
    if c = '\x60' then some ((r.extend [.output (String.ofList script)]).into .plain)
    else if c = '\\' then some (r.into (.outputEscaped script))
    else some (r.into (.output (script ++ [c])))
  | .outputEscaped script =>
    let escaped := if c = '$' ∨ c = '\x60' ∨ c = '\\' then [c] else ['\\', c]
    some (r.into (.output (script ++ escaped)))
  | .ampersand => if c = '&' then r.endCommand? else none

def read? (r : Reader) (script : String) : Option Reader := script.toList.foldlM step? r

/-- The commands at the end of a script. -/
def finish? (r : Reader) : Option (List Command) :=
  match r.mode with
  | .plain => r.endWord.endCommand?.map (·.chain)
  | .escaped | .quoted | .output _ | .outputEscaped _ | .ampersand => none

end Reader

/-- The commands of a script, each of which runs if those before it have succeeded. -/
def read? (script : String) : Option (List Command) :=
  (Reader.read? {} script).bind Reader.finish?

namespace Reader

variable (r : Reader)

@[simp] theorem extend_extend (v w : Word) : (r.extend v).extend w = r.extend (v ++ w) := by
  simp [extend]

@[simp] theorem into_into (m m' : Mode) : (r.into m).into m' = r.into m' := rfl

@[simp] theorem extend_into (m : Mode) (w : Word) : (r.into m).extend w = (r.extend w).into m := rfl

@[simp] theorem mode_into (m : Mode) : (r.into m).mode = m := rfl

@[simp] theorem mode_extend (w : Word) : (r.extend w).mode = r.mode := rfl

theorem into_of_mode {m : Mode} (h : r.mode = m) : r.into m = r := by
  rw [into, ← h]

@[simp] theorem mode_endWord : r.endWord.mode = r.mode := rfl

@[simp] theorem endWord_endWord : r.endWord.endWord = r.endWord := by
  simp [endWord]

theorem endWord_extend (h : r.word = none) (word : Word) :
    (r.extend word).endWord = { r with command := r.command ++ [word] } := by
  simp [endWord, extend, h]

theorem read?_append (s t : String) : r.read? (s ++ t) = (r.read? s).bind (·.read? t) := by
  simp [read?, List.foldlM_append]

end Reader

/-- A text is read as a word, or as more of the word before it. -/
def Spells (text : String) (word : Word) : Prop :=
  ∀ r : Reader, r.mode = .plain → r.read? text = some (r.extend word)

theorem Spells.append {s t : String} {v w : Word} (hs : Spells s v) (ht : Spells t w) :
    Spells (s ++ t) (v ++ w) := by
  intro r hr
  rw [Reader.read?_append, hs r hr, Option.bind_some, ht (r.extend v) hr, Reader.extend_extend]

theorem Reader.step?_of_isShellSafe (r : Reader) (hr : r.mode = .plain) {c : Char}
    (hc : Text.isShellSafe c) : r.step? c = some (r.extend [.char c]) := by
  have hne (d : Char) (hd : Text.isShellSafe d = false) : c ≠ d := by
    rintro rfl
    rw [hc] at hd
    cases hd
  have hreserved : c ∉ reserved := by
    have hmeaning : reserved.all (Text.isShellSafe · = false) := by decide
    exact fun hmem => hne c (of_decide_eq_true (List.all_eq_true.1 hmeaning c hmem)) rfl
  have hblank : ¬(c = ' ' ∨ c = '\t') :=
    not_or.2 ⟨hne ' ' (by decide), hne '\t' (by decide)⟩
  simp only [step?, hr]
  rw [if_neg hblank, if_neg (hne '&' (by decide)), if_neg (hne '\\' (by decide)),
    if_neg (hne '\x27' (by decide)), if_neg (hne '\x60' (by decide)), if_neg hreserved]

theorem Reader.foldlM_of_isShellSafe (r : Reader) (hr : r.mode = .plain) {s : List Char}
    (hs : ∀ c ∈ s, Text.isShellSafe c) (word : Word) :
    s.foldlM step? (r.extend word) = some (r.extend (word ++ s.map .char)) := by
  induction s generalizing word with
  | nil => simp
  | cons c s ih =>
    obtain ⟨hc, hs⟩ := List.forall_mem_cons.1 hs
    have hstep : (r.extend word).step? c = some (r.extend (word ++ [.char c])) := by
      rw [step?_of_isShellSafe (r.extend word) hr hc, extend_extend]
    rw [List.foldlM_cons, hstep, Option.bind_eq_bind, Option.bind_some, ih hs]
    simp

theorem spells_of_isShellSafe {text : String} (hne : text ≠ "")
    (hsafe : ∀ c ∈ text.toList, Text.isShellSafe c) : Spells text (literal text) := by
  intro r hr
  cases hs : text.toList with
  | nil => exact absurd (String.toList_eq_nil_iff.1 hs) hne
  | cons c s =>
    rw [hs] at hsafe
    obtain ⟨hc, hsafe⟩ := List.forall_mem_cons.1 hsafe
    rw [Reader.read?, hs, List.foldlM_cons, Reader.step?_of_isShellSafe r hr hc,
      Option.bind_eq_bind, Option.bind_some, Reader.foldlM_of_isShellSafe r hr hsafe]
    simp [literal, hs]

/-- In quotes every character is read as it is; quotes are written outside of them. -/
theorem Reader.foldlM_shellEscape (r : Reader) (s : List Char) (word : Word) :
    (s.flatMap Text.shellEscape).foldlM step? ((r.extend word).into .quoted) =
      some ((r.extend (word ++ s.map .char)).into .quoted) := by
  induction s generalizing word with
  | nil => simp
  | cons c s ih =>
    have hchar : (Text.shellEscape c).foldlM step? ((r.extend word).into .quoted) =
        some ((r.extend (word ++ [.char c])).into .quoted) := by
      -- A quote ends the quoted text, is escaped, and starts it again.
      by_cases hc : c = '\x27'
      · subst hc
        simp [Text.shellEscape, step?]
      · simp [Text.shellEscape, hc, step?]
    rw [List.flatMap_cons, List.foldlM_append, hchar, Option.bind_eq_bind, Option.bind_some, ih]
    simp

/-- A quoted text is read as one word with nothing but the text in it. -/
theorem spells_shellQuote (text : String) : Spells (Text.shellQuote text) (literal text) := by
  unfold Text.shellQuote Text.shellWord
  split
  · rename_i h
    rw [Bool.and_eq_true, Bool.not_eq_true', List.isEmpty_eq_false_iff, List.all_eq_true] at h
    rw [String.ofList_toList]
    exact spells_of_isShellSafe (fun heq => h.1 (String.toList_eq_nil_iff.2 heq)) h.2
  · intro r hr
    -- The first quote begins the word even if nothing comes in the quotes.
    have hopen : r.step? '\x27' = some ((r.extend []).into .quoted) := by
      simp [Reader.step?, hr]
    have hclose (word : Word) : ((r.extend word).into .quoted).step? '\x27' =
        some (r.extend word) := by
      simpa [Reader.step?] using Reader.into_of_mode (r.extend word) hr
    rw [Reader.read?, String.toList_ofList, List.foldlM_cons, hopen, Option.bind_eq_bind,
      Option.bind_some, List.foldlM_append, Reader.foldlM_shellEscape, Option.bind_eq_bind,
      Option.bind_some, List.foldlM_cons, hclose]
    simp [literal]

/-- A text that needs no quotes is read as it is. -/
theorem spells_fixed {text : String} (h : Text.shellQuote text = text) :
    Spells text (literal text) := by
  have hspells := spells_shellQuote text
  rwa [h] at hspells

/-- In backquotes all is left for later, but for what could end them. -/
theorem Reader.foldlM_output (r : Reader) {s : List Char}
    (hs : ∀ c ∈ s, c ≠ '\x60' ∧ c ≠ '\\') (script : List Char) :
    s.foldlM step? (r.into (.output script)) = some (r.into (.output (script ++ s))) := by
  induction s generalizing script with
  | nil => simp
  | cons c s ih =>
    obtain ⟨⟨hquote, hbackslash⟩, hs⟩ := List.forall_mem_cons.1 hs
    have hstep : (r.into (.output script)).step? c = some (r.into (.output (script ++ [c]))) := by
      simp [step?, hquote, hbackslash]
    rw [List.foldlM_cons, hstep, Option.bind_eq_bind, Option.bind_some, ih hs]
    simp

/-- A script in backquotes is read as what it puts out. -/
theorem spells_output {script : String}
    (h : script.toList.all fun c => c ≠ '\x60' ∧ c ≠ '\\') :
    Spells ("\x60" ++ script ++ "\x60") [.output script] := by
  have hchars : ∀ c ∈ script.toList, c ≠ '\x60' ∧ c ≠ '\\' := by simpa using h
  intro r hr
  have hopen : r.read? "\x60" = some (r.into (.output [])) := by
    simp [Reader.read?, Reader.step?, hr]
  have hscript : (r.into (.output [])).read? script = some (r.into (.output script.toList)) := by
    simpa [Reader.read?] using r.foldlM_output hchars []
  have hclose : (r.into (.output script.toList)).read? "\x60" =
      some (r.extend [.output script]) := by
    simpa [Reader.read?, Reader.step?] using Reader.into_of_mode (r.extend [.output script]) hr
  rw [Reader.read?_append, Reader.read?_append, hopen, Option.bind_some, hscript,
    Option.bind_some, hclose]

/-- A line is read as the words of a command. -/
def Reads (line : String) (words : Command) : Prop :=
  words ≠ [] ∧ ∀ r : Reader, r.mode = .plain → r.word = none →
    ∃ r', r.read? line = some r' ∧ r'.mode = .plain ∧
      r'.endWord = { r with command := r.command ++ words }

theorem Spells.reads {text : String} {word : Word} (h : Spells text word) : Reads text [word] :=
  ⟨List.cons_ne_nil _ _, fun r hr hnone =>
    ⟨r.extend word, h r hr, hr, r.endWord_extend hnone word⟩⟩

/-- A blank separates words. -/
theorem Spells.reads_cons {text line : String} {word : Word} {words : Command}
    (htext : Spells text word) (hline : Reads line words) :
    Reads (text ++ " " ++ line) (word :: words) := by
  refine ⟨List.cons_ne_nil _ _, fun r hr hnone => ?_⟩
  have hblank : (r.extend word).read? " " = some { r with command := r.command ++ [word] } := by
    rw [← r.endWord_extend hnone word]
    simp [Reader.read?, Reader.step?, hr]
  obtain ⟨r', hread, hplain, hwords⟩ := hline.2 { r with command := r.command ++ [word] } hr hnone
  refine ⟨r', ?_, hplain, ?_⟩
  · rw [Reader.read?_append, Reader.read?_append, htext r hr, Option.bind_some, hblank,
      Option.bind_some, hread]
  · rw [hwords]
    simp

/-- Words with blanks between them are read as they were. -/
theorem reads_intercalate {texts : List String} {words : Command} (hne : texts ≠ [])
    (h : List.Forall₂ Spells texts words) : Reads (" ".intercalate texts) words := by
  induction h with
  | nil => exact absurd rfl hne
  | @cons text word texts words htext hrest ih =>
    cases hrest with
    | nil =>
      rw [String.intercalate_singleton]
      exact htext.reads
    | cons =>
      rw [String.intercalate_cons_cons]
      exact htext.reads_cons (ih (List.cons_ne_nil _ _))

/-- A line of words, where those that need no quotes stand before and after the others. -/
theorem reads_of_eq_intercalate {line : String} (front back : List String) {texts : List String}
    {words : Command} (hne : front ≠ [])
    (hfixed : ∀ text ∈ front ++ back, Text.shellQuote text = text)
    (hline : line = " ".intercalate (front ++ texts ++ back))
    (h : List.Forall₂ Spells texts words) :
    Reads line (front.map literal ++ words ++ back.map literal) := by
  have hspells {fixed : List String} (hfixed : ∀ text ∈ fixed, Text.shellQuote text = text) :
      List.Forall₂ Spells fixed (fixed.map literal) :=
    List.forall₂_map_right_iff.2
      (List.forall₂_same.2 fun text hmem => spells_fixed (hfixed text hmem))
  have hfront := hspells fun text hmem => hfixed text (List.mem_append_left back hmem)
  have hback := hspells fun text hmem => hfixed text (List.mem_append_right front hmem)
  have hall : front ++ texts ++ back ≠ [] := by simp [hne]
  rw [hline]
  exact reads_intercalate hall (List.rel_append (List.rel_append hfront h) hback)

/-- A script is read as commands, after any that have been read before. -/
def Runs (script : String) (commands : List Command) : Prop :=
  ∀ chain : List Command, (Reader.read? { chain } script).bind Reader.finish? =
    some (chain ++ commands)

theorem Runs.read?_eq {script : String} {commands : List Command} (h : Runs script commands) :
    read? script = some commands := h []

theorem Reads.runs {line : String} {words : Command} (h : Reads line words) :
    Runs line [words] := by
  intro chain
  obtain ⟨r, hread, hplain, hwords⟩ := h.2 { chain } rfl rfl
  rw [hread, Option.bind_some, Reader.finish?, hplain]
  simp [hwords, Reader.endCommand?, h.1]

/-- Two ampersands separate commands. -/
theorem Reads.runs_cons {line script : String} {words : Command} {commands : List Command}
    (hline : Reads line words) (hscript : Runs script commands) :
    Runs (line ++ " && " ++ script) (words :: commands) := by
  intro chain
  obtain ⟨r, hread, hplain, hwords⟩ := hline.2 { chain } rfl rfl
  -- The blank ends the last word, the second ampersand the command.
  have hand : r.read? " && " = some { chain := chain ++ [words] } := by
    have hblank : r.step? ' ' = some r.endWord := by simp [Reader.step?, hplain]
    have hfirst : r.endWord.step? '&' = some (r.endWord.into .ampersand) := by
      simp [Reader.step?, hplain]
    have hsecond : (r.endWord.into .ampersand).step? '&' = some { chain := chain ++ [words] } := by
      simp [Reader.step?, hwords, Reader.into, Reader.endCommand?, hline.1]
    have hlast : Reader.step? { chain := chain ++ [words] } ' ' =
        some { chain := chain ++ [words] } := rfl
    simp [Reader.read?, hblank, hfirst, hsecond, hlast]
  rw [Reader.read?_append, Reader.read?_append, hread, Option.bind_some, hand, Option.bind_some,
    hscript]
  simp

theorem runs_intercalate {lines : List String} {commands : List Command} (hne : lines ≠ [])
    (h : List.Forall₂ Reads lines commands) : Runs (" && ".intercalate lines) commands := by
  induction h with
  | nil => exact absurd rfl hne
  | @cons line words lines commands hline hrest ih =>
    cases hrest with
    | nil =>
      rw [String.intercalate_singleton]
      exact hline.runs
    | cons =>
      rw [String.intercalate_cons_cons]
      exact hline.runs_cons (ih (List.cons_ne_nil _ _))

end WorkflowPod.Shell
