import WorkflowPod.Proofs.Yaml.Value

/-!
Documents are read back as the values they were written for. A value is read back wherever it
stands if what comes after it begins on a line that does not belong to it; collections follow from
their parts, by induction on the items or entries.
-/
namespace WorkflowPod.Yaml

open Text

/-- The values that are read back: those with no number but integers of up to 128 bits, and no text
that cannot be written. -/
inductive Readable : Json → Prop where
  | null : Readable .null
  | bool (b : Bool) : Readable (.bool b)
  | int {n : Int} (hlow : -(wideSize / 2 : Nat) ≤ n) (hhigh : n < wideSize) : Readable (.int n)
  | str (text : String) : Readable (.str text)
  | arr {items : List Json} (h : ∀ item ∈ items, Readable item) : Readable (.arr items)
  | obj {members : List (String × Json)} (h : ∀ m ∈ members, Readable m.2) :
    Readable (.obj members)

/-- A line that begins with a scalar, not with a mark or a flow collection. -/
structure StartsScalar (line : List Char) : Prop where
  notBlank : line.head?.any (!isBlank ·) = true
  notItem : startsMark '-' line = false
  notQuestion : startsMark '?' line = false
  notFlow : line.head? ≠ some '[' ∧ line.head? ≠ some '\x7b'

theorem startsScalar_plain {s : List Char} (hne : s ≠ []) (h : allowsPlain s = true)
    (tail : List Char) : StartsScalar (s ++ tail) := by
  simp only [allowsPlain, Bool.and_eq_true, Bool.not_eq_true', bne_iff_ne] at h
  obtain ⟨⟨⟨⟨⟨⟨hescapes, hbreak⟩, hhead⟩, -⟩, -⟩, hstarts⟩, -⟩ := h
  have hline := startsIndicator_append hne hstarts tail
  obtain ⟨c, rest, rfl⟩ := List.exists_cons_of_ne_nil hne
  have hprint := (needsEscapes_eq_false hescapes).1 c List.mem_cons_self
  have hblank : isBlank c = false := by
    have hc : isBreak c = false := by simp_all
    have hne : c ≠ ' ' ∧ c ≠ '\t' ∧ c ≠ '\x00' := by
      refine ⟨by simpa using hhead, ?_, ?_⟩ <;> (rintro rfl; simp [isPrintable] at hprint)
    simp [isBlank, hne, hc]
  rw [List.cons_append] at hline ⊢
  rw [startsIndicator, Bool.or_eq_false_iff] at hline
  obtain ⟨hfirst, hmark⟩ := hline
  have hflow : c ≠ '[' ∧ c ≠ '\x7b' := by
    constructor <;> (rintro rfl; simp at hfirst)
  refine ⟨by simpa using hblank, ?_, ?_, by simpa using hflow⟩
  all_goals
    simp only [Bool.and_eq_false_iff, Bool.or_eq_false_iff] at hmark
    simp only [startsMark, Bool.and_eq_false_iff]
    exact hmark.imp_left (by simp_all)

theorem startsScalar_scalar (width : Nat) (s tail : List Char) :
    StartsScalar (scalar width s ++ tail) := by
  cases h : style s with
  | plain =>
    obtain ⟨hmistakable, hplain⟩ := style_eq_plain h
    simpa [scalar, h] using startsScalar_plain (ne_nil_of_not_mistakable hmistakable) hplain tail
  | singleQuoted => constructor <;> simp [scalar, h, isBlank, isBreak, startsMark]
  | doubleQuoted => constructor <;> simp [scalar, h, isBlank, isBreak, startsMark]
  | literal => constructor <;> simp [scalar, h, literalHeader_eq, isBlank, isBreak, startsMark]

theorem head?_ne_blank {line : List Char} (h : line.head?.any (!isBlank ·) = true) :
    line.head? ≠ some ' ' := fun hblank => by simp [hblank, isBlank] at h

theorem lineAt?_margin {column : Nat} {line : List Char}
    (hblank : line.head?.any (!isBlank ·) = true) (hdocument : startsDocument line = false) :
    lineAt? column (margin column ++ line) = some line := by
  have hhead := head?_ne_blank hblank
  rw [lineAt?, unindented_margin column hhead, indentation_margin column hhead, if_pos]
  simp [hblank, hdocument]

theorem lineAt?_of_outdented {width column : Nat} {s : List Char} (h : Outdented width s)
    (hlt : width < column) : lineAt? column s = none := by
  rw [lineAt?, if_neg]
  rintro ⟨hcolumn, hhead, -⟩
  obtain rfl | ⟨hle, -⟩ := h
  · simp [unindented] at hhead
  · omega

theorem outdented_margin {width : Nat} {line : List Char}
    (hblank : line.head?.any (!isBlank ·) = true) : Outdented width (margin width ++ line) := by
  have hhead := head?_ne_blank hblank
  refine .inr ⟨(indentation_margin width hhead).le, ?_⟩
  rw [unindented_margin width hhead]
  exact hblank

theorem endLine?_eq_none {line : List Char} (h : line.head?.any (!isBlank ·) = true) :
    endLine? (' ' :: line) = none := by
  cases line with
  | nil => simp at h
  | cons c rest =>
    have hc : c ≠ ' ' ∧ c ≠ '\n' := by
      constructor <;> (rintro rfl; simp [isBlank, isBreak] at h)
    simp [endLine?, unindented, hc]

theorem unindented_cons {line : List Char} (h : line.head?.any (!isBlank ·) = true) :
    unindented (' ' :: line) = line ∧ indentation (' ' :: line) = 1 := by
  have hhead := head?_ne_blank h
  exact ⟨unindented_margin 1 hhead, indentation_margin 1 hhead⟩

/-- A value that begins in the line of its mark or key and is no flow collection. -/
theorem readValue?_inline (steps : Nat) (place : Place) (width : Nat) {line : List Char}
    (hblank : line.head?.any (!isBlank ·) = true)
    (hflow : line.head? ≠ some '[' ∧ line.head? ≠ some '\x7b') :
    readValue? (steps + 1) place width (' ' :: line) =
      if place = .afterMark ∧ startsMark '-' line then
        (readItems? steps (width + 2) line).map fun (items, rest) => (.arr items, rest)
      else if place = .afterMark ∧ (startsMark '?' line ∨ (readKey? line).isSome) then
        (readEntries? steps (width + 2) line).map fun (members, rest) => (.obj members, rest)
      else (readScalar? width line).map fun (scalar, rest) => (scalar.value, rest) := by
  obtain ⟨hline, hindentation⟩ := unindented_cons hblank
  rw [readValue?, endLine?_eq_none hblank]
  dsimp only
  rw [hline, hindentation]
  split
  · exact absurd rfl hflow.1
  · exact absurd rfl hflow.2
  · rfl

theorem readValue?_scalarLine {steps width : Nat} {place : Place} {line rest : List Char}
    {scalar : Scalar} (hstart : StartsScalar line) (hkey : readKey? line = none)
    (hread : readScalar? width line = some (scalar, rest)) :
    readValue? (steps + 1) place width (' ' :: line) = some (scalar.value, rest) := by
  rw [readValue?_inline steps place width hstart.notBlank hstart.notFlow]
  simp [hstart.notItem, hstart.notQuestion, hkey, hread]

/-- What is not followed by a colon is no key. -/
theorem readKey?_newline {line rest : List Char} {scalar : Scalar}
    (h : readFlow? line = some (scalar, '\n' :: rest)) : readKey? line = none := by
  rw [readKey?, h]
  rfl

theorem readKey?_scalarEnd {width : Nat} (hwidth : 0 < width) (s rest : List Char) :
    readKey? (scalar width s ++ (scalarEnd s ++ rest)) = none := by
  by_cases hstyle : style s = .literal
  · simp [scalar, hstyle, literalHeader_eq, readKey?, readFlow?, readPlain?, startsIndicator]
  · have hread := readFlow?_scalar hwidth hstyle (endsFlow_scalarEnd hstyle rest)
    rw [scalarEnd, if_neg (by simp [hstyle])] at hread ⊢
    exact readKey?_newline hread

/-- A text is read back from what is written for it after a mark or key. -/
theorem readValue?_text (steps : Nat) (place : Place) (width : Nat) (s : List Char)
    {rest : List Char} (hrest : Outdented width rest) :
    readValue? (steps + 1) place width (' ' :: (scalar (width + 2) s ++ (scalarEnd s ++ rest))) =
      some (.str (String.ofList s), rest) := by
  rw [readValue?_scalarLine (startsScalar_scalar _ s _) (readKey?_scalarEnd (by omega) s rest)
    (readScalar?_scalar width s (hrest.mono (Nat.le_succ _))), value_of_text]

/-- A plain word is read as what it means. -/
theorem readValue?_word (steps : Nat) (place : Place) (width : Nat) {s : List Char} (hne : s ≠ [])
    (h : allowsPlain s = true) (rest : List Char) :
    readValue? (steps + 1) place width (' ' :: (s ++ '\n' :: rest)) =
      some ((Scalar.mk s true).value, rest) := by
  have hflow := readFlow?_plain hne h (EndsFlow.newline rest).splitPlain
  exact readValue?_scalarLine (startsScalar_plain hne h _) (readKey?_newline hflow)
    (readScalar?_of_readFlow? hflow (endLine?_newline rest))

/-- What is written for a value begins with a blank or on a new line. -/
theorem exists_value_cons (place : Place) (width : Nat) (json : Json) :
    ∃ c rest, value place width json = c :: rest ∧ (c = ' ' ∨ c = '\n') := by
  cases json with
  | null | int | decimal | str | unreadable => exact ⟨' ', _, rfl, .inl rfl⟩
  | bool b => cases b <;> exact ⟨' ', _, rfl, .inl rfl⟩
  | arr items =>
    cases items with
    | nil => exact ⟨' ', _, rfl, .inl rfl⟩
    | cons item items =>
      cases place with
      | underKey => exact ⟨'\n', _, rfl, .inr rfl⟩
      | afterMark => exact ⟨' ', _, rfl, .inl rfl⟩
  | obj members =>
    cases members with
    | nil => exact ⟨' ', _, rfl, .inl rfl⟩
    | cons m members =>
      cases place with
      | underKey => exact ⟨'\n', _, rfl, .inr rfl⟩
      | afterMark => exact ⟨' ', _, rfl, .inl rfl⟩

theorem endsWord_value (place : Place) (width : Nat) (json : Json) (rest : List Char) :
    endsWord (value place width json ++ rest) = true := by
  obtain ⟨c, text, h, hc⟩ := exists_value_cons place width json
  rw [h]
  rcases hc with rfl | rfl <;> rfl

theorem value_length_pos (place : Place) (width : Nat) (json : Json) :
    0 < (value place width json).length := by
  obtain ⟨c, text, h, -⟩ := exists_value_cons place width json
  simp [h]

/-- The first line of an entry. -/
structure StartsEntry (line : List Char) : Prop where
  notBlank : line.head?.any (!isBlank ·) = true
  notItem : startsMark '-' line = false
  notDocument : startsDocument line = false
  notFlow : line.head? ≠ some '[' ∧ line.head? ≠ some '\x7b'

theorem startsDocument_append {s : List Char} (h : startsDocument s = false) {c : Char}
    (hminus : '-' ≠ c) (hdot : '.' ≠ c) (tail : List Char) :
    startsDocument (s ++ c :: tail) = false := by
  match s with
  | [] | [a] | [a, b] => simp [startsDocument, startsWith, afterLead?, hminus, hdot]
  | a :: b :: d :: rest => simpa [startsDocument, startsWith, afterLead?] using h

theorem startsDocument_scalar (width : Nat) (s tail : List Char) :
    startsDocument (scalar width s ++ ':' :: tail) = false := by
  cases h : style s with
  | plain =>
    have hplain := (style_eq_plain h).2
    simp only [allowsPlain, Bool.and_eq_true, Bool.not_eq_true'] at hplain
    simpa [scalar, h] using startsDocument_append hplain.1.1.2 (by decide) (by decide) tail
  | singleQuoted => apply startsDocument_eq_false <;> simp [scalar, h]
  | doubleQuoted => apply startsDocument_eq_false <;> simp [scalar, h]
  | literal => apply startsDocument_eq_false <;> simp [scalar, h, literalHeader_eq]

theorem startsEntry_keyText (width : Nat) (key tail : List Char) :
    StartsEntry (keyText width key ++ tail) := by
  rw [keyText]
  split
  · have hstart := startsScalar_scalar (width + 2) key (':' :: tail)
    rw [List.append_assoc, List.singleton_append]
    exact ⟨hstart.notBlank, hstart.notItem, startsDocument_scalar _ key tail, hstart.notFlow⟩
  · constructor
    · simp [isBlank, isBreak]
    · simp [startsMark]
    · exact startsDocument_eq_false (by simp) (by simp)
    · simp

theorem keyText_length_pos (width : Nat) (key : List Char) : 0 < (keyText width key).length := by
  have hstart := (startsEntry_keyText width key []).notBlank
  rw [List.append_nil] at hstart
  cases h : keyText width key with
  | nil => simp [h] at hstart
  | cons c rest => simp

theorem readEntryKey?_keyText (width : Nat) (key : List Char) {rest : List Char}
    (hrest : endsWord rest = true) :
    readEntryKey? width (keyText width key ++ rest) = some (key, Place.ofKey key, rest) := by
  by_cases hkey : isSimpleKey key = true
  · have hplace : Place.ofKey key = .underKey := by rw [Place.ofKey, if_pos hkey]
    have hstart := startsScalar_scalar (width + 2) key (':' :: rest)
    rw [keyText, hplace]
    dsimp only
    rw [List.append_assoc, List.singleton_append, readEntryKey?, hstart.notQuestion,
      readKey?_scalar (by omega) hkey hrest]
    rfl
  · have hplace : Place.ofKey key = .afterMark := by rw [Place.ofKey, if_neg hkey]
    have hline : (':' :: rest).head?.any (!isBlank ·) = true := by simp [isBlank, isBreak]
    have hread := readScalar?_scalar width key
      ((outdented_margin hline).mono (Nat.le_succ width))
    have hstart := startsScalar_scalar (width + 2) key
      (scalarEnd key ++ (margin width ++ ':' :: rest))
    rw [keyText, hplace]
    simp only [List.cons_append, List.append_assoc, List.nil_append]
    rw [readEntryKey?, if_pos (by simp [startsMark, endsWord, isBlank])]
    rw [List.drop_one, List.tail_cons, (unindented_cons hstart.notBlank).1, hread]
    simp only [Option.bind_eq_bind, Option.bind_some]
    rw [lineAt?_margin hline (startsDocument_eq_false (by simp) (by simp))]
    simp [startsMark, hrest]

/-- Whether a line in a column belongs to a sequence in it. -/
def continuesItems (column : Nat) (s : List Char) : Bool := (lineAt? column s).any (startsMark '-')

/-- A value is read back after any mark or key, as far as what comes after it begins on a line that
does not belong to it. -/
def ReadsBack (json : Json) : Prop :=
  ∀ (place : Place) (width steps : Nat) (rest : List Char),
    (value place width json).length ≤ steps → Outdented width rest →
      (place = .underKey → continuesItems width rest = false) →
        readValue? steps place width (value place width json ++ rest) = some (json, rest)

@[simp] theorem sequence_nil (inline : Bool) (column : Nat) : sequence inline column [] = [] := rfl

@[simp] theorem mapping_nil (inline : Bool) (column : Nat) : mapping inline column [] = [] := rfl

theorem sequence_cons (inline : Bool) (column : Nat) (item : Json) (items : List Json) :
    sequence inline column (item :: items) =
      (if inline then [] else margin column) ++
        '-' :: (value .afterMark column item ++ sequence false column items) :=
  rfl

theorem mapping_cons (inline : Bool) (column : Nat) (key : String) (json : Json)
    (members : List (String × Json)) :
    mapping inline column ((key, json) :: members) =
      (if inline then [] else margin column) ++ keyText column key.toList ++
        (value (.ofKey key.toList) column json ++ mapping false column members) :=
  rfl

theorem value_arr {items : List Json} (h : items ≠ []) (place : Place) (width : Nat) :
    value place width (.arr items) =
      match place with
      | .underKey => '\n' :: sequence false width items
      | .afterMark => ' ' :: sequence true (width + 2) items := by
  obtain ⟨item, items, rfl⟩ := List.exists_cons_of_ne_nil h
  cases place <;> rfl

theorem value_obj {members : List (String × Json)} (h : members ≠ []) (place : Place)
    (width : Nat) :
    value place width (.obj members) =
      match place with
      | .underKey => '\n' :: mapping false (width + 2) members
      | .afterMark => ' ' :: mapping true (width + 2) members := by
  obtain ⟨m, members, rfl⟩ := List.exists_cons_of_ne_nil h
  cases place <;> rfl

theorem sequence_false {items : List Json} (h : items ≠ []) (column : Nat) :
    sequence false column items = margin column ++ sequence true column items := by
  obtain ⟨item, items, rfl⟩ := List.exists_cons_of_ne_nil h
  simp [sequence_cons]

theorem mapping_false {members : List (String × Json)} (h : members ≠ []) (column : Nat) :
    mapping false column members = margin column ++ mapping true column members := by
  obtain ⟨⟨key, json⟩, members, rfl⟩ := List.exists_cons_of_ne_nil h
  simp [mapping_cons]

/-- The first line of a sequence begins with the mark of an item. -/
theorem sequence_line {items : List Json} (h : items ≠ []) (column : Nat) (rest : List Char) :
    startsMark '-' (sequence true column items ++ rest) = true ∧
      (sequence true column items ++ rest).head?.any (!isBlank ·) = true ∧
        startsDocument (sequence true column items ++ rest) = false := by
  obtain ⟨item, items, rfl⟩ := List.exists_cons_of_ne_nil h
  rw [sequence_cons, if_pos rfl, List.nil_append, List.cons_append, List.append_assoc]
  obtain ⟨c, text, hvalue, hc⟩ := exists_value_cons .afterMark column item
  rw [hvalue]
  have hne : '-' ≠ c := by rcases hc with rfl | rfl <;> decide
  refine ⟨?_, by simp [isBlank, isBreak], by simp [startsDocument, startsWith, afterLead?, hne]⟩
  rcases hc with rfl | rfl <;> rfl

theorem mapping_line {members : List (String × Json)} (h : members ≠ []) (column : Nat)
    (rest : List Char) : StartsEntry (mapping true column members ++ rest) := by
  obtain ⟨⟨key, json⟩, members, rfl⟩ := List.exists_cons_of_ne_nil h
  rw [mapping_cons, if_pos rfl, List.nil_append, List.append_assoc]
  exact startsEntry_keyText _ _ _

/-- The first line of a mapping has a key. -/
theorem mapping_key {members : List (String × Json)} (h : members ≠ []) (column : Nat)
    (rest : List Char) :
    startsMark '?' (mapping true column members ++ rest) = true ∨
      (readKey? (mapping true column members ++ rest)).isSome = true := by
  obtain ⟨⟨key, json⟩, members, rfl⟩ := List.exists_cons_of_ne_nil h
  rw [mapping_cons, if_pos rfl, List.nil_append, List.append_assoc, List.append_assoc]
  have hread := readEntryKey?_keyText column key.toList
    (endsWord_value (.ofKey key.toList) column json (mapping false column members ++ rest))
  rw [readEntryKey?] at hread
  split at hread
  · exact .inl ‹_›
  · obtain ⟨found, hfound, -⟩ := Option.map_eq_some_iff.1 hread
    rw [hfound]
    exact .inr rfl

theorem lineAt?_sequence {items : List Json} (h : items ≠ []) (column : Nat) (rest : List Char) :
    lineAt? column (sequence false column items ++ rest) =
      some (sequence true column items ++ rest) := by
  obtain ⟨-, hblank, hdocument⟩ := sequence_line h column rest
  rw [sequence_false h, List.append_assoc, lineAt?_margin hblank hdocument]

theorem lineAt?_mapping {members : List (String × Json)} (h : members ≠ []) (column : Nat)
    (rest : List Char) :
    lineAt? column (mapping false column members ++ rest) =
      some (mapping true column members ++ rest) := by
  have hline := mapping_line h column rest
  rw [mapping_false h, List.append_assoc, lineAt?_margin hline.notBlank hline.notDocument]

theorem outdented_sequence {column : Nat} {rest : List Char} (h : Outdented column rest)
    (items : List Json) : Outdented column (sequence false column items ++ rest) := by
  by_cases hne : items = []
  · subst hne
    simpa using h
  · rw [sequence_false hne, List.append_assoc]
    exact outdented_margin (sequence_line hne column rest).2.1

theorem outdented_mapping {column : Nat} {rest : List Char} (h : Outdented column rest)
    (members : List (String × Json)) : Outdented column (mapping false column members ++ rest) := by
  by_cases hne : members = []
  · subst hne
    simpa using h
  · rw [mapping_false hne, List.append_assoc]
    exact outdented_margin (mapping_line hne column rest).notBlank

theorem continuesItems_mapping {column : Nat} {rest : List Char} (h : lineAt? column rest = none)
    (members : List (String × Json)) :
    continuesItems column (mapping false column members ++ rest) = false := by
  rw [continuesItems]
  by_cases hne : members = []
  · subst hne
    simp [h]
  · rw [lineAt?_mapping hne, Option.any_some, (mapping_line hne column rest).notItem]

/-- Items that are read back each are read back together. -/
theorem readItems?_sequence {items : List Json} (hne : items ≠ [])
    (hitems : ∀ item ∈ items, ReadsBack item) {column steps : Nat} {rest : List Char}
    (hsteps : (sequence true column items).length ≤ steps) (hrest : Outdented column rest)
    (hend : continuesItems column rest = false) :
    readItems? steps column (sequence true column items ++ rest) = some (items, rest) := by
  induction items generalizing steps with
  | nil => contradiction
  | cons item items ih =>
    rw [sequence_cons, if_pos rfl, List.nil_append, List.length_cons, List.length_append] at hsteps
    obtain ⟨steps, rfl⟩ := Nat.exists_eq_succ_of_ne_zero (n := steps) (by omega)
    have hitem := hitems item List.mem_cons_self .afterMark column steps
      (sequence false column items ++ rest) (by omega) (outdented_sequence hrest items) (by simp)
    rw [sequence_cons, if_pos rfl, List.nil_append, List.cons_append, List.append_assoc, readItems?,
      List.drop_one, List.tail_cons, hitem]
    simp only [Option.bind_eq_bind, Option.bind_some]
    by_cases hmore : items = []
    · subst hmore
      have hnone : (lineAt? column rest).filter (startsMark '-') = none := by
        rw [Option.filter_eq_none_iff]
        intro line hline
        simpa [continuesItems, hline] using hend
      simp [hnone]
    · have hsome : (lineAt? column (sequence false column items ++ rest)).filter (startsMark '-') =
          some (sequence true column items ++ rest) := by
        rw [lineAt?_sequence hmore, Option.filter_some, if_pos (sequence_line hmore column rest).1]
      have hlength : (sequence true column items).length ≤ steps := by
        rw [sequence_false hmore, List.length_append] at hsteps
        omega
      rw [hsome]
      simp [ih hmore (fun item hitem => hitems item (List.mem_cons_of_mem _ hitem)) hlength]

/-- Entries whose values are read back each are read back together. -/
theorem readEntries?_mapping {members : List (String × Json)} (hne : members ≠ [])
    (hmembers : ∀ m ∈ members, ReadsBack m.2) {column steps : Nat} {rest : List Char}
    (hsteps : (mapping true column members).length ≤ steps) (hrest : Outdented column rest)
    (hend : lineAt? column rest = none) :
    readEntries? steps column (mapping true column members ++ rest) = some (members, rest) := by
  induction members generalizing steps with
  | nil => contradiction
  | cons m members ih =>
    obtain ⟨key, json⟩ := m
    rw [mapping_cons, if_pos rfl, List.nil_append, List.length_append, List.length_append] at hsteps
    have hkey := keyText_length_pos column key.toList
    have hpos := value_length_pos (.ofKey key.toList) column json
    obtain ⟨steps, rfl⟩ := Nat.exists_eq_succ_of_ne_zero (n := steps) (by omega)
    have hvalue := hmembers _ List.mem_cons_self (.ofKey key.toList) column steps
      (mapping false column members ++ rest) (by dsimp only; omega)
      (outdented_mapping hrest members) fun _ => continuesItems_mapping hend members
    rw [mapping_cons, if_pos rfl, List.nil_append, List.append_assoc, List.append_assoc,
      readEntries?, readEntryKey?_keyText column key.toList (endsWord_value _ column json _)]
    simp only [Option.bind_eq_bind, Option.bind_some, hvalue, String.ofList_toList]
    by_cases hmore : members = []
    · subst hmore
      simp [hend]
    · have hlength : (mapping true column members).length ≤ steps := by
        rw [mapping_false hmore, List.length_append] at hsteps
        omega
      rw [lineAt?_mapping hmore]
      simp [ih hmore (fun m hm => hmembers m (List.mem_cons_of_mem _ hm)) hlength]

theorem readsBack_arr {items : List Json} (h : ∀ item ∈ items, ReadsBack item) :
    ReadsBack (.arr items) := by
  intro place width steps rest hsteps hrest hend
  have hpos := value_length_pos place width (.arr items)
  obtain ⟨steps, rfl⟩ := Nat.exists_eq_succ_of_ne_zero (n := steps) (by omega)
  by_cases hne : items = []
  · subst hne
    have hvalue : value place width (.arr []) = [' ', '[', ']', '\n'] := rfl
    simp [hvalue, readValue?, endLine?, unindented]
  rw [value_arr hne] at hsteps ⊢
  cases place with
  | underKey =>
    have hlength : (sequence true width items).length ≤ steps := by
      simp only [sequence_false hne, List.length_cons, List.length_append] at hsteps
      omega
    have hread := readItems?_sequence hne h hlength hrest (hend rfl)
    have hindentation : indentation (sequence false width items ++ rest) = width := by
      obtain ⟨-, hblank, -⟩ := sequence_line hne width rest
      rw [sequence_false hne, List.append_assoc]
      exact indentation_margin width (head?_ne_blank hblank)
    rw [List.cons_append, readValue?, endLine?_newline]
    dsimp only
    rw [hindentation, lineAt?_sequence hne]
    simp [(sequence_line hne width rest).1, hread]
  | afterMark =>
    have hlength : (sequence true (width + 2) items).length ≤ steps := by
      simp only [List.length_cons] at hsteps
      omega
    have hend : continuesItems (width + 2) rest = false := by
      rw [continuesItems, lineAt?_of_outdented hrest (by omega)]
      rfl
    have hread := readItems?_sequence hne h hlength (hrest.mono (by omega)) hend
    obtain ⟨hmark, hblank, -⟩ := sequence_line hne (width + 2) rest
    have hflow : (sequence true (width + 2) items ++ rest).head? ≠ some '[' ∧
        (sequence true (width + 2) items ++ rest).head? ≠ some '\x7b' := by
      obtain ⟨item, more, rfl⟩ := List.exists_cons_of_ne_nil hne
      simp [sequence_cons]
    rw [List.cons_append, readValue?_inline steps _ width hblank hflow, if_pos ⟨rfl, hmark⟩, hread]
    rfl

theorem readsBack_obj {members : List (String × Json)} (h : ∀ m ∈ members, ReadsBack m.2) :
    ReadsBack (.obj members) := by
  intro place width steps rest hsteps hrest _
  have hpos := value_length_pos place width (.obj members)
  obtain ⟨steps, rfl⟩ := Nat.exists_eq_succ_of_ne_zero (n := steps) (by omega)
  by_cases hne : members = []
  · subst hne
    have hvalue : value place width (.obj []) = [' ', '\x7b', '\x7d', '\n'] := rfl
    simp [hvalue, readValue?, endLine?, unindented]
  rw [value_obj hne] at hsteps ⊢
  have hline := mapping_line hne (width + 2) rest
  have hlength : (mapping true (width + 2) members).length ≤ steps := by
    cases place with
    | underKey =>
      simp only [mapping_false hne, List.length_cons, List.length_append] at hsteps
      omega
    | afterMark =>
      simp only [List.length_cons] at hsteps
      omega
  have hread := readEntries?_mapping hne h hlength (hrest.mono (by omega))
    (lineAt?_of_outdented hrest (by omega))
  cases place with
  | underKey =>
    have hindentation : indentation (mapping false (width + 2) members ++ rest) = width + 2 := by
      rw [mapping_false hne, List.append_assoc]
      exact indentation_margin _ (head?_ne_blank hline.notBlank)
    rw [List.cons_append, readValue?, endLine?_newline]
    dsimp only
    rw [hindentation, lineAt?_mapping hne]
    simp [hline.notItem, hread]
  | afterMark =>
    have hmark := mapping_key hne (width + 2) rest
    rw [List.cons_append, readValue?_inline steps _ width hline.notBlank hline.notFlow,
      if_neg (by simp [hline.notItem]), if_pos ⟨rfl, hmark⟩, hread]
    rfl

theorem readsBack_word {json : Json} {s : List Char} (hne : s ≠ []) (hplain : allowsPlain s = true)
    (hvalue : ∀ place width, value place width json = ' ' :: (s ++ ['\n']))
    (hjson : (Scalar.mk s true).value = json) : ReadsBack json := by
  intro place width steps rest hsteps _ _
  rw [hvalue] at hsteps ⊢
  obtain ⟨steps, rfl⟩ := Nat.exists_eq_succ_of_ne_zero (n := steps) (by
    simp only [List.length_cons] at hsteps
    omega)
  have hread := readValue?_word steps place width hne hplain rest
  rw [hjson] at hread
  simpa using hread

theorem Readable.readsBack {json : Json} (h : Readable json) : ReadsBack json := by
  induction h with
  | null => exact readsBack_word (s := "null".toList) (by decide) (by decide) (fun _ _ => rfl) rfl
  | bool b =>
    cases b with
    | false =>
      exact readsBack_word (s := "false".toList) (by decide) (by decide) (fun _ _ => rfl) rfl
    | true => exact readsBack_word (s := "true".toList) (by decide) (by decide) (fun _ _ => rfl) rfl
  | @int n hlow hhigh =>
    have hne : (toString n).toList ≠ [] := by
      rw [toList_toString]
      simp
    exact readsBack_word hne (allowsPlain_numeral n) (fun _ _ => rfl)
      (value_of_numeral hlow hhigh)
  | str text =>
    intro place width steps rest hsteps hrest _
    have hpos := value_length_pos place width (.str text)
    obtain ⟨steps, rfl⟩ := Nat.exists_eq_succ_of_ne_zero (n := steps) (by omega)
    have hread := readValue?_text steps place width text.toList hrest
    rw [String.ofList_toList] at hread
    have hvalue : value place width (.str text) =
        ' ' :: (scalar (width + 2) text.toList ++ scalarEnd text.toList) := rfl
    rw [hvalue, List.cons_append, List.append_assoc, hread]
  | arr _ ih => exact readsBack_arr ih
  | obj _ ih => exact readsBack_obj ih

/-- A mapping with entries is read back from its document. -/
theorem parse?_render {members : List (String × Json)} (hne : members ≠ [])
    (h : Readable (.obj members)) : parse? (render (.obj members)) = some (.obj members) := by
  cases h with
  | obj h =>
    have hdocument : document (.obj members) = mapping false 0 members := by
      obtain ⟨first, rest, rfl⟩ := List.exists_cons_of_ne_nil hne
      rfl
    have hline := lineAt?_mapping hne 0 []
    have hlength : (mapping true 0 members).length ≤ (mapping false 0 members).length + 1 := by
      rw [mapping_false hne, List.length_append]
      omega
    have hread := readEntries?_mapping hne (fun m hm => (h m hm).readsBack) hlength (.inl rfl) rfl
    rw [List.append_nil] at hline hread
    simp [parse?, render, hdocument, hline, hread]

end WorkflowPod.Yaml
