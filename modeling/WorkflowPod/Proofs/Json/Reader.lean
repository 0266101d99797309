import Mathlib.Data.Option.Basic
import WorkflowPod.Json.Printer
import WorkflowPod.Json.Reader

/-!
JSON texts are read back as the values they were written for. A value is read back whatever comes
after it; collections follow from their parts, by induction on the elements or members.
-/
namespace WorkflowPod.Json

open Text

/-- The values with neither a number nor anything unreadable in any part. -/
inductive Numberless : Json → Prop where
  | null : Numberless .null
  | bool (b : Bool) : Numberless (.bool b)
  | str (text : String) : Numberless (.str text)
  | arr {elements : List Json} (h : ∀ e ∈ elements, Numberless e) : Numberless (.arr elements)
  | obj {members : List (String × Json)} (h : ∀ m ∈ members, Numberless m.2) :
    Numberless (.obj members)

/-- The pieces of a text with one more before them. -/
def Piece.before (piece : Piece) : List Piece × List Char → List Piece × List Char
  | (pieces, rest) => (piece :: pieces, rest)

theorem readPieces?_short {d c : Char} (h : unescape? d = some c) (s : List Char) :
    readPieces? ('\\' :: d :: s) = (readPieces? s).map (Piece.char c).before := by
  rw [readPieces?, h, Option.map_eq_bind]
  · rfl
  · rintro a b c d rest rfl
    cases h

theorem readPieces?_plain {c : Char} (hquote : c ≠ '"') (hbackslash : c ≠ '\\')
    (hcontrol : ¬c.toNat < 0x20) (s : List Char) :
    readPieces? (c :: s) = (readPieces? s).map (Piece.char c).before := by
  have hguard : guard (0x20 ≤ c.toNat) = some () := if_pos (Nat.le_of_not_lt hcontrol)
  rw [readPieces?, hguard, Option.map_eq_bind]
  · rfl
  · exact hquote
  · exact fun _ _ _ _ _ h => absurd h hbackslash
  · exact fun _ _ h => absurd h hbackslash

theorem readPieces?_unit {a b c d : Char} {n : Nat} (h : readNat? 16 [a, b, c, d] = some n)
    (s : List Char) :
    readPieces? ('\\' :: 'u' :: a :: b :: c :: d :: s) =
      (readPieces? s).map (Piece.unit n).before := by
  rw [readPieces?, h, Option.map_eq_bind]
  rfl

theorem readNat?_escape {n : Nat} (h : n < 0x20) :
    readNat? 16 ['0', '0', (n / 16).digitChar, (n % 16).digitChar] = some n := by
  revert n
  decide

/-- What a character is written with is read as one piece, and that stands for the character. -/
theorem exists_piece (c : Char) :
    ∃ piece : Piece,
      (∀ s, readPieces? (escape c ++ s) = (readPieces? s).map piece.before) ∧
      ∀ pieces, Piece.join? (piece :: pieces) = (Piece.join? pieces).map (c :: ·) := by
  unfold escape
  split
  case h_8 =>
    rename_i hquote hbackslash _ _ _ _ _
    split
    · rename_i hcontrol
      refine ⟨.unit c.toNat, fun s => readPieces?_unit (readNat?_escape hcontrol) s, ?_⟩
      intro pieces
      have hlow : c.toNat < 0xD800 ∨ 0xDFFF < c.toNat := .inl (by omega)
      rw [Piece.join?.eq_def]
      dsimp only
      rw [if_pos hlow, Char.ofNat_toNat]
    · rename_i hcontrol
      exact ⟨.char c, fun s => readPieces?_plain hquote hbackslash hcontrol s, fun _ => rfl⟩
  all_goals exact ⟨.char _, fun s => readPieces?_short rfl s, fun _ => rfl⟩

theorem exists_pieces (s rest : List Char) :
    ∃ pieces, readPieces? (s.flatMap escape ++ '"' :: rest) = some (pieces, rest) ∧
      Piece.join? pieces = some s := by
  induction s with
  | nil => exact ⟨[], by rw [List.flatMap_nil, List.nil_append, readPieces?], rfl⟩
  | cons c s ih =>
    obtain ⟨pieces, hread, hjoin⟩ := ih
    obtain ⟨piece, hpiece, hvalue⟩ := exists_piece c
    refine ⟨piece :: pieces, ?_, by rw [hvalue, hjoin, Option.map_some]⟩
    rw [List.flatMap_cons, List.append_assoc, hpiece, hread, Option.map_some, Piece.before]

theorem readString?_quoted (text : String) (rest : List Char) :
    readString? (text.toList.flatMap escape ++ '"' :: rest) = some (some text, rest) := by
  obtain ⟨pieces, hread, hjoin⟩ := exists_pieces text.toList rest
  rw [readString?, hread, Option.map_some]
  dsimp only
  rw [hjoin, Option.map_some, String.ofList_toList]

theorem quoted_append (text : String) (rest : List Char) :
    quoted text ++ rest = '"' :: (text.toList.flatMap escape ++ '"' :: rest) := by
  simp [quoted]

/-- A value is read back if there are as many steps as it has characters and one more. -/
def ReadsBack (json : Json) : Prop :=
  ∀ (rest : List Char) (steps : Nat), (rendered json).length < steps →
    readValue? steps (rendered json ++ rest) = some (json, rest)

theorem readsBack_str (text : String) : ReadsBack (.str text) := by
  intro rest steps hsteps
  obtain ⟨steps, rfl⟩ := Nat.exists_eq_succ_of_ne_zero (n := steps) (by omega)
  have hread := readString?_quoted text rest
  rw [rendered, quoted_append, readValue?]
  simp [isBlank, hread]

theorem readsBack_null : ReadsBack .null := by
  intro rest steps hsteps
  obtain ⟨steps, rfl⟩ := Nat.exists_eq_succ_of_ne_zero (n := steps) (by omega)
  rfl

theorem readsBack_bool (b : Bool) : ReadsBack (.bool b) := by
  intro rest steps hsteps
  obtain ⟨steps, rfl⟩ := Nat.exists_eq_succ_of_ne_zero (n := steps) (by omega)
  cases b <;> rfl

/-- What a value begins with, so that it is told from the end of a collection. -/
theorem Numberless.exists_cons {json : Json} (h : Numberless json) :
    ∃ c s, rendered json = c :: s ∧ isBlank c = false ∧ c ≠ ']' := by
  cases h with
  | null => exact ⟨_, _, rfl, by decide, by decide⟩
  | bool b => cases b <;> exact ⟨_, _, rfl, by decide, by decide⟩
  | str text => exact ⟨_, _, rfl, by decide, by decide⟩
  | arr h => exact ⟨'[', _, by rw [rendered], by decide, by decide⟩
  | obj h => exact ⟨'\x7b', _, by rw [rendered], by decide, by decide⟩

theorem renderedElements_cons_cons (e next : Json) (es : List Json) :
    renderedElements (e :: next :: es) = rendered e ++ ',' :: renderedElements (next :: es) := by
  rw [renderedElements]
  exact List.cons_ne_nil next es

theorem renderedMembers_cons_cons (key : String) (value : Json) (next : String × Json)
    (ms : List (String × Json)) :
    renderedMembers ((key, value) :: next :: ms) =
      quoted key ++ ':' :: (rendered value ++ ',' :: renderedMembers (next :: ms)) := by
  rw [renderedMembers]
  exact List.cons_ne_nil next ms

theorem readElements?_rendered {e : Json} {es : List Json} (h : ∀ e' ∈ e :: es, ReadsBack e')
    (rest : List Char) (steps : Nat) (hsteps : (renderedElements (e :: es)).length + 1 < steps) :
    readElements? steps (renderedElements (e :: es) ++ ']' :: rest) = some (e :: es, rest) := by
  induction es generalizing e steps with
  | nil =>
    obtain ⟨steps, rfl⟩ := Nat.exists_eq_succ_of_ne_zero (n := steps) (by omega)
    rw [renderedElements] at hsteps ⊢
    have hvalue := h e List.mem_cons_self (']' :: rest) steps (by omega)
    rw [readElements?, hvalue]
    rfl
  | cons next es ih =>
    obtain ⟨steps, rfl⟩ := Nat.exists_eq_succ_of_ne_zero (n := steps) (by omega)
    rw [renderedElements_cons_cons] at hsteps ⊢
    rw [List.length_append, List.length_cons] at hsteps
    have hvalue := h e List.mem_cons_self (',' :: (renderedElements (next :: es) ++ ']' :: rest))
      steps (by omega)
    have hothers := ih (fun e' he' => h e' (List.mem_cons_of_mem _ he')) steps (by omega)
    have hcomma (s : List Char) : (',' :: s).dropWhile isBlank = ',' :: s := rfl
    rw [List.append_assoc, List.cons_append, readElements?, hvalue]
    simp only [hcomma, hothers, Option.bind_eq_bind, Option.bind_some]
    rfl

/-- One member is read back, and what comes after it decides what follows. -/
theorem readMembers?_member {steps : Nat} (key : String) {value : Json} {tail : List Char}
    (h : readValue? steps (rendered value ++ tail) = some (value, tail)) :
    readMembers? (steps + 1) (quoted key ++ ':' :: (rendered value ++ tail)) =
      match tail.dropWhile isBlank with
      | '\x7d' :: rest => some ([(some key, value)], rest)
      | ',' :: rest => do
        let (members, rest) ← readMembers? steps rest
        return ((some key, value) :: members, rest)
      | _ => none := by
  have hkey := readString?_quoted key (':' :: (rendered value ++ tail))
  have hquote (s : List Char) : ('"' :: s).dropWhile isBlank = '"' :: s := rfl
  have hcolon (s : List Char) : (':' :: s).dropWhile isBlank = ':' :: s := rfl
  rw [quoted_append, readMembers?, hquote]
  simp only [hkey, hcolon, h, Option.bind_eq_bind, Option.bind_some]
  rfl

theorem readMembers?_rendered {m : String × Json} {ms : List (String × Json)}
    (h : ∀ m' ∈ m :: ms, ReadsBack m'.2) (rest : List Char) (steps : Nat)
    (hsteps : (renderedMembers (m :: ms)).length + 1 < steps) :
    readMembers? steps (renderedMembers (m :: ms) ++ '\x7d' :: rest) =
      some ((m :: ms).map fun m' => (some m'.1, m'.2), rest) := by
  induction ms generalizing m steps with
  | nil =>
    obtain ⟨steps, rfl⟩ := Nat.exists_eq_succ_of_ne_zero (n := steps) (by omega)
    obtain ⟨key, value⟩ := m
    rw [renderedMembers] at hsteps ⊢
    rw [List.length_append, List.length_cons] at hsteps
    have hvalue := h (key, value) List.mem_cons_self ('\x7d' :: rest) steps (by dsimp only; omega)
    rw [List.append_assoc, List.cons_append, readMembers?_member key hvalue]
    rfl
  | cons next ms ih =>
    obtain ⟨steps, rfl⟩ := Nat.exists_eq_succ_of_ne_zero (n := steps) (by omega)
    obtain ⟨key, value⟩ := m
    rw [renderedMembers_cons_cons] at hsteps ⊢
    simp only [List.length_append, List.length_cons] at hsteps
    have hvalue := h (key, value) List.mem_cons_self
      (',' :: (renderedMembers (next :: ms) ++ '\x7d' :: rest)) steps (by dsimp only; omega)
    have hothers := ih (fun m' hm' => h m' (List.mem_cons_of_mem _ hm')) steps (by omega)
    have hcomma (s : List Char) : (',' :: s).dropWhile isBlank = ',' :: s := rfl
    rw [List.append_assoc, List.cons_append, List.append_assoc, List.cons_append,
      readMembers?_member key hvalue, hcomma]
    simp only [hothers, Option.bind_eq_bind, Option.bind_some]
    rfl

theorem ofMembers_map_some (members : List (String × Json)) :
    ofMembers (members.map fun m => (some m.1, m.2)) = .obj members := by
  have hkeys : (members.map fun m => (some m.1, m.2)).mapM (fun m => m.1.map (·, m.2)) =
      some members := by
    induction members with
    | nil => rfl
    | cons m members ih =>
      rw [List.map_cons, List.mapM_cons, ih]
      rfl
  unfold ofMembers
  split
  · rename_i found hfound
    rw [Option.some.inj (hfound.symm.trans hkeys)]
  · rename_i hfound
    cases hfound.symm.trans hkeys

/-- An array that does not end at once has elements. -/
theorem readValue?_arr {c : Char} (hblank : isBlank c = false) (hbracket : c ≠ ']') (steps : Nat)
    (s : List Char) :
    readValue? (steps + 1) ('[' :: c :: s) =
      (readElements? steps (c :: s)).map fun (elements, rest) => (.arr elements, rest) := by
  have hopen : ('[' :: c :: s).dropWhile isBlank = '[' :: c :: s := rfl
  have hfirst : (c :: s).dropWhile isBlank = c :: s :=
    List.dropWhile_cons_of_neg (by simp [hblank])
  rw [readValue?, hopen]
  simp only [hfirst]
  split
  · rename_i heq
    exact absurd (List.cons.inj heq).1 hbracket
  · rfl

theorem readsBack_arr {elements : List Json} (hplain : ∀ e ∈ elements, Numberless e)
    (h : ∀ e ∈ elements, ReadsBack e) : ReadsBack (.arr elements) := by
  intro rest steps hsteps
  obtain ⟨steps, rfl⟩ := Nat.exists_eq_succ_of_ne_zero (n := steps) (by omega)
  cases elements with
  | nil => rfl
  | cons e es =>
    obtain ⟨c, s, hcons, hblank, hbracket⟩ := (hplain e List.mem_cons_self).exists_cons
    obtain ⟨tail, htail⟩ : ∃ tail, renderedElements (e :: es) = c :: tail := by
      cases es with
      | nil => exact ⟨s, by rw [renderedElements, hcons]⟩
      | cons next es => exact ⟨_, by rw [renderedElements_cons_cons, hcons, List.cons_append]⟩
    have htext : rendered (.arr (e :: es)) ++ rest = '[' :: c :: (tail ++ ']' :: rest) := by
      simp [rendered, htail]
    have hread := readElements?_rendered h rest steps
      (by simp only [rendered, List.length_cons, List.length_append] at hsteps; omega)
    rw [htail, List.cons_append] at hread
    rw [htext, readValue?_arr hblank hbracket, hread]
    rfl

/-- An object that does not end at once has members. -/
theorem readValue?_obj (steps : Nat) (s : List Char) :
    readValue? (steps + 1) ('\x7b' :: '"' :: s) =
      (readMembers? steps ('"' :: s)).map fun (members, rest) => (ofMembers members, rest) := rfl

theorem readsBack_obj {members : List (String × Json)} (h : ∀ m ∈ members, ReadsBack m.2) :
    ReadsBack (.obj members) := by
  intro rest steps hsteps
  obtain ⟨steps, rfl⟩ := Nat.exists_eq_succ_of_ne_zero (n := steps) (by omega)
  cases members with
  | nil => rfl
  | cons m ms =>
    obtain ⟨tail, htail⟩ : ∃ tail, renderedMembers (m :: ms) = '"' :: tail := by
      obtain ⟨key, value⟩ := m
      cases ms with
      | nil => exact ⟨_, by rw [renderedMembers, quoted_append]⟩
      | cons next ms => exact ⟨_, by rw [renderedMembers_cons_cons, quoted_append]⟩
    have htext : rendered (.obj (m :: ms)) ++ rest = '\x7b' :: '"' :: (tail ++ '\x7d' :: rest) := by
      simp [rendered, htail]
    have hread := readMembers?_rendered h rest steps
      (by simp only [rendered, List.length_cons, List.length_append] at hsteps; omega)
    rw [htail, List.cons_append] at hread
    rw [htext, readValue?_obj, hread, Option.map_some]
    exact congrArg (fun json => some (json, rest)) (ofMembers_map_some (m :: ms))

theorem Numberless.readsBack {json : Json} (h : Numberless json) : ReadsBack json := by
  induction h with
  | null => exact readsBack_null
  | bool b => exact readsBack_bool b
  | str text => exact readsBack_str text
  | arr h ih => exact readsBack_arr h ih
  | obj _ ih => exact readsBack_obj ih

theorem parse?_render {json : Json} (h : Numberless json) : parse? (render json) = some json := by
  have hread := h.readsBack [] _ (Nat.lt_succ_self _)
  rw [List.append_nil] at hread
  unfold parse?
  simp only [render, String.toList_ofList, hread]
  rfl

end WorkflowPod.Json
